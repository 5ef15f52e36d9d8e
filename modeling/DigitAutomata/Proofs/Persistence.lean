import DigitAutomata.Options.Parser
import DigitAutomata.Proofs.Construction
import DigitAutomata.Proofs.Encoding
import DigitAutomata.Proofs.JsonText
import DigitAutomata.Settings.Saved

/-! Settings that are saved and read again. The text of the settings says of each whether it is absent, so
it is read back as it was; and a file that was written is found where its path led, since writing it made
no directory into anything else. What the command line asks for goes before what is saved, and asking
again changes nothing. -/
namespace DigitAutomata

namespace FileSystem

/-- Relative paths start at the same place, and what was a directory is one. -/
structure KeepsDirectories (files files' : FileSystem) : Prop where
  here : files'.here = files.here
  directory : files.entry place = some .directory → files'.entry place = some .directory

variable {files files' : FileSystem} {place next : Location} {names : List String}
  {name path : String} {content : List UInt8}

/-- A name is followed only in a directory. -/
theorem directory_of_follow (led : files.follow place name = .ok next) :
    files.entry place = some .directory := by
  simp only [follow] at led
  split at led
  next => contradiction
  next => contradiction
  next => contradiction
  next directory => exact directory

namespace KeepsDirectories

theorem follow (keeps : KeepsDirectories files files') (led : files.follow place name = .ok next) :
    files'.follow place name = .ok next := by
  have before := directory_of_follow led
  simp only [FileSystem.follow, before] at led
  simp only [FileSystem.follow, keeps.directory before]
  exact led

theorem followAll (keeps : KeepsDirectories files files')
    (led : files.followAll place names = .ok next) : files'.followAll place names = .ok next := by
  induction names generalizing place with
  | nil => exact led
  | cons name names ih =>
    obtain ⟨middle,first,later⟩ := bind_eq_ok_iff.mp led
    exact bind_eq_ok_iff.mpr ⟨middle,keeps.follow first,ih later⟩

theorem locate (keeps : KeepsDirectories files files') (led : files.locate path = .ok next) :
    files'.locate path = .ok next := by
  simp only [FileSystem.locate] at led ⊢
  split at led
  next => contradiction
  split at led
  next => contradiction
  split at led
  next => contradiction
  rw [keeps.here]
  simp only [*, if_false]
  exact keeps.followAll led

end KeepsDirectories

theorem keepsDirectories_put (other : files.entry place ≠ some .directory) (item : Entry) :
    KeepsDirectories files (files.put place item) := by
  refine ⟨rfl,fun {place'} directory => ?_⟩
  have apart : place' ≠ place := by
    rintro rfl
    contradiction
  rw [put_entry_other files item apart, directory]

/-- Only what is no directory is written, and it becomes a file with the content. -/
theorem put_of_write (written : files.write path content = .ok files') : ∃ place,
    files.locate path = .ok place ∧ files.entry place ≠ some .directory ∧
      files' = files.put place (.file content) := by
  obtain ⟨place,led,stored⟩ := bind_eq_ok_iff.mp written
  refine ⟨place,led,?_⟩
  split at stored
  next => contradiction
  next => contradiction
  next other _ => exact ⟨other,(Except.ok.inj stored).symm⟩

/-- A file that was written is found under its path. -/
theorem find_of_write (written : files.write path content = .ok files') :
    files'.find path = .ok (.file content) := by
  obtain ⟨place,led,other,rfl⟩ := put_of_write written
  have led := (keepsDirectories_put other (.file content)).locate led
  simp [find, led, bind, Except.bind]

end FileSystem

namespace Settings

variable {s : Settings} {o : Options} {files files' : FileSystem} {path : String}

theorem keyed?_record {α : Type} (fields : List (String × Json)) (key : String) (otherwise : α)
    (read? : Json → Option α) :
    keyed? (Json.keyed fields) key otherwise read? =
      match fields.filter fun field => decide (field.1 = key) with
      | [] => some otherwise
      | [(_, value)] => read? value
      | _ => none := by
  rw [keyed?, Json.filter_keyed]
  generalize (fields.filter fun field => decide (field.1 = key)) = found
  rcases found with _ | ⟨_,_ | _⟩ <;> rfl

theorem read_orNull {α : Type} {read? : Json → Option (Option α)} {write : α → Json}
    (absent : read? .null = some none) (read : ∀ a, read? (write a) = some (some a))
    (a : Option α) : read? (orNull write a) = some a := by
  cases a with
  | none => exact absent
  | some a => exact read a

theorem readText?_orNull (text : Option String) : readText? (orNull .ofText text) = some text :=
  read_orNull rfl (fun text => by simp [Json.ofText, readText?]) text

theorem readFormat?_orNull (format : Option OutputFormat) :
    readFormat? (orNull (fun format => .ofText format.name) format) = some format :=
  read_orNull rfl (fun format => by simp [Json.ofText, readFormat?, formatOfPieces?]) format

theorem readBool?_orNull (value : Option Bool) : readBool? (orNull .bool value) = some value :=
  read_orNull rfl (fun _ => rfl) value

/-- Each setting stands under its key, an absent one as null. -/
theorem ofJson?_toJson (s : Settings) : ofJson? s.toJson = some s := by
  have texts : ∀ fields : List (String × Json),
      ((Json.keyed fields).all fun field => (Piece.text? field.1).isSome) = true := by
    simp [Json.keyed]
  simp only [toJson, Json.record_eq, ofJson?, texts, if_true, keyed?_record]
  simp [readText?_orNull, readFormat?_orNull, readBool?_orNull]

theorem plain_orNull {α : Type} {write : α → Json} (plain : ∀ a, (write a).Plain) (a : Option α) :
    (orNull write a).Plain := by
  cases a with
  | none => exact .null
  | some a => exact plain a

theorem plain_toJson (s : Settings) : s.toJson.Plain := by
  apply Json.Plain.record
  simp only [List.forall_mem_cons]
  exact ⟨plain_orNull (fun _ => .text) _,plain_orNull (fun _ => .text) _,
    plain_orNull (fun _ => .bool) _,plain_orNull (fun _ => .bool) _,nofun⟩

theorem ofText?_toText (s : Settings) : ofText? s.toText = some s := by
  rw [ofText?, toText, Json.ofText?_pretty s.plain_toJson, Option.bind_some, ofJson?_toJson]

theorem write_of_save (saved : s.save files path = .ok files') :
    ∃ made : FileSystem, made.write path (Text.encode s.toText) = .ok files' := by
  simp only [save] at saved
  -- The text is written last, whether or not directories are made for it.
  split at saved
  case' h_2 => split at saved
  all_goals
    obtain ⟨made,_,written⟩ := bind_eq_ok_iff.mp saved
    split at written
    next same => exact ⟨made,Except.ok.inj written ▸ same⟩
    next => contradiction

/-- What was saved is loaded as it was, and the file is there, so no defaults are taken. -/
theorem load_of_save (saved : s.save files path = .ok files') :
    load files' path = pure (.ok s) := by
  obtain ⟨made,written⟩ := write_of_save saved
  have found := FileSystem.find_of_write written
  have there : files'.fileExists path = true := by
    rw [FileSystem.fileExists, found]
    rfl
  have content : files'.read path = .ok (Text.encode s.toText) := by
    simp [FileSystem.read_eq_ok_iff, FileSystem.deliver, found, bind, Except.bind]
  simp [load, there, content, Text.decode?_eq_some_iff.mpr rfl, ofText?_toText]

/-- A switch that is on by default is off if it is turned off now or was saved so. -/
theorem switch_off_iff (now : Bool) (saved : Option Bool) :
    (if now then some false else saved).getD true = false ↔ now = true ∨ saved = some false := by
  cases now with
  | true => simp
  | false => cases saved <;> simp

theorem merge_merge (s : Settings) (o : Options) : (s.merge o).merge o = s.merge o := by
  simp only [merge]
  congr 1
  · cases o.file <;> rfl
  · cases o.output <;> rfl
  · cases o.noColor <;> rfl
  · cases o.quiet <;> rfl

/-- A command line that asks for nothing changes nothing. -/
theorem merge_nothing (s : Settings) : s.merge {} = s := rfl

/-- Settings survive saving, whatever is in them and whether or not they are there. What the command line
gives goes before them, and a setting that is on by default is off exactly if either turns it off. What
the two come to is settled: merging again with the same command line changes nothing, and neither does
saving it, loading it and merging it with an empty one. -/
theorem load_save_merge :
    (∀ (s : Settings) files files' path, s.save files path = .ok files' →
      load files' path = pure (.ok s)) ∧
    ∀ (s : Settings) (o : Options), let m := s.merge o
      (m.defaultFile = match o.file with
        | some path => some path
        | none => s.defaultFile) ∧
      (m.effectiveOutput = match o.output, s.output with
        | some format, _ => format
        | none, some format => format
        | none, none => .text) ∧
      (m.effectiveColor = false ↔ o.noColor = true ∨ s.color = some false) ∧
      (m.effectiveShow = false ↔ o.quiet = true ∨ s.showAutomaton = some false) ∧
      m.merge o = m ∧
      ∀ files files' path, m.save files path = .ok files' → ∃ loaded nothing,
        load files' path = pure (.ok loaded) ∧ Options.parse [] = .ok nothing ∧
          loaded.merge nothing = m := by
  refine ⟨fun s files files' path => load_of_save,fun s o => ⟨?_,?_,switch_off_iff o.noColor s.color,
    switch_off_iff o.quiet s.showAutomaton,merge_merge s o,fun files files' path saved => ?_⟩⟩
  · simp only [merge]
    cases o.file <;> rfl
  · simp only [merge, effectiveOutput]
    cases o.output with
    | some format => rfl
    | none => cases s.output <;> rfl
  · exact ⟨s.merge o,{},load_of_save saved,rfl,merge_nothing (s.merge o)⟩

/-- Settings with a file whose name needs escapes and with two that are absent, in a directory that is
made for them; and what they come to with a command line, written over an older file. -/
theorem load_save_merge_escaped :
    let s : Settings := ⟨some "\"a\\b\"\n\x01é", none, some false, none⟩
    let o : Options := { output := some .json, quiet := true }
    let older := (FileSystem.empty ["home"]).put ["home", "s"] (.file [])
    (∃ files', s.save (.empty ["home"]) "new/s.json" = .ok files' ∧
      load files' "new/s.json" = pure (.ok s)) ∧
    (s.merge o).merge o = s.merge o ∧
    ∃ files', (s.merge o).save older "s" = .ok files' ∧ ∃ loaded nothing,
      load files' "s" = pure (.ok loaded) ∧ Options.parse [] = .ok nothing ∧
        loaded.merge nothing = ⟨some "\"a\\b\"\n\x01é", some .json, some false, some false⟩ := by
  intro s o older
  have saves : ∀ {outcome : Except SettingsError FileSystem}, outcome.isOk = true →
      ∃ files', outcome = .ok files' := by
    intro outcome done
    cases outcome with
    | ok files' => exact ⟨files',rfl⟩
    | error e => contradiction
  obtain ⟨files',saved⟩ := saves (show (s.save (.empty ["home"]) "new/s.json").isOk = true by
    decide +kernel)
  obtain ⟨files'',saved'⟩ := saves (show ((s.merge o).save older "s").isOk = true by decide +kernel)
  obtain ⟨_,_,_,_,again,kept⟩ := load_save_merge.2 s o
  exact ⟨⟨files',saved,load_save_merge.1 s _ _ _ saved⟩,again,files'',saved',kept _ _ _ saved'⟩

end Settings

end DigitAutomata
