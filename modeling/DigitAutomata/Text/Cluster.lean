import DigitAutomata.Text.BreakClass

/-! The characters that a reader sees as one: Unicode's extended grapheme clusters. `continues` says
where none ends; a text is the concatenation of its clusters. -/
namespace DigitAutomata.Text

open BreakClass (ofChar)

/-- Clusters under construction are held with their last character first. A pictograph, its marks and
a joiner wait for another pictograph. -/
def awaitsPictograph : List Char → Bool
  | [] => false
  | last :: before =>
    ofChar last = .joiner &&
      (before.dropWhile fun c => ofChar c = .extend).head?.any fun c => ofChar c = .pictograph

/-- A consonant waits for another if one of its marks is a linker; a non-joiner prevents it. -/
def awaitsConsonant (cluster : List Char) : Bool :=
  let isMark (c : Char) : Bool := c ≠ '\u200c' && (ofChar c = .extend || ofChar c = .joiner)
  (cluster.takeWhile isMark).any isLinker &&
    (cluster.dropWhile isMark).head?.any fun c => ofChar c = .consonant

/-- Regional indicators pair up from the left. -/
def awaitsRegional (cluster : List Char) : Bool :=
  (cluster.takeWhile fun c => ofChar c = .regional).length % 2 = 1

/-- No boundary lies between a cluster and the character after it. -/
def continues (cluster : List Char) (next : Char) : Bool :=
  match cluster with
  | [] => false
  | last :: _ =>
    let left := ofChar last
    let right := ofChar next
    if left.isolates || right.isolates then left = .carriageReturn && right = .lineFeed
    else right.attaches || left = .prepend || left.sameSyllable right ||
      (right = .pictograph && awaitsPictograph cluster) ||
      (right = .consonant && awaitsConsonant cluster) ||
      (right = .regional && awaitsRegional cluster)

def clustersFrom (cluster : List Char) : List Char → List (List Char)
  | [] => [cluster.reverse]
  | c :: cs =>
    if continues cluster c then clustersFrom (c :: cluster) cs
    else cluster.reverse :: clustersFrom [c] cs

def clusters : List Char → List (List Char)
  | [] => []
  | c :: cs => clustersFrom [c] cs

theorem flatten_clustersFrom (cluster cs : List Char) :
    (clustersFrom cluster cs).flatten = cluster.reverse ++ cs := by
  induction cs generalizing cluster with
  | nil => simp [clustersFrom]
  | cons c cs ih => unfold clustersFrom; split <;> simp [ih]

/-- Nothing is lost, added or moved. -/
@[simp] theorem flatten_clusters (cs : List Char) : (clusters cs).flatten = cs := by
  cases cs <;> simp [clusters, flatten_clustersFrom]

end DigitAutomata.Text
