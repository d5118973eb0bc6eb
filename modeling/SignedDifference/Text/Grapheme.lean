import SignedDifference.Text.GraphemeTable

/-!
# Grapheme clusters

A text is cut into extended grapheme clusters, the units that a reader takes for one character.
Whether a cluster goes on depends on the character and on a few facts about what stands before it,
which `Context` keeps.  No character is lost or moved by the cutting (`flatten_clusters`).
-/

set_option autoImplicit false

namespace SignedDifference.Text

inductive BreakClass
  | carriageReturn
  | lineFeed
  | control
  | extend
  | joiner
  | regional
  | prepend
  | spacingMark
  | leading
  | vowel
  | trailing
  | leadingVowel
  | leadingVowelTrailing
  | other
deriving DecidableEq, Repr, Inhabited

/-- Of the Hangul syllables, every 28th has no trailing consonant. -/
def BreakClass.ofChar (c : Char) : BreakClass :=
  let n := c.toNat
  if n = 0xD then .carriageReturn
  else if n = 0xA then .lineFeed
  else if n = 0x200D then .joiner
  else if 0x1F1E6 ≤ n ∧ n ≤ 0x1F1FF then .regional
  else if 0xAC00 ≤ n ∧ n ≤ 0xD7A3 then
    if (n - 0xAC00) % 28 = 0 then .leadingVowel else .leadingVowelTrailing
  else if GraphemeTable.control.has n then .control
  else if GraphemeTable.extend.has n then .extend
  else if GraphemeTable.spacingMark.has n then .spacingMark
  else if GraphemeTable.prepend.has n then .prepend
  else if GraphemeTable.leading.has n then .leading
  else if GraphemeTable.vowel.has n then .vowel
  else if GraphemeTable.trailing.has n then .trailing
  else .other

/-- How far an Indic conjunct has come: a consonant, and then a linker that joins the next one. -/
inductive Conjunct
  | none
  | consonant
  | linked
deriving DecidableEq, Repr, Inhabited

/-- What decides whether the next character belongs to the cluster under way. -/
structure Context where
  last : BreakClass
  /-- An odd number of regional indicators stands last. -/
  oddRegional : Bool
  /-- A pictograph and nothing but extending characters stand last. -/
  pictograph : Bool
  /-- Such a pictograph and a joiner stand last. -/
  joinedPictograph : Bool
  conjunct : Conjunct
deriving DecidableEq, Repr, Inhabited

namespace Context

def empty : Context :=
  ⟨.other, false, false, false, .none⟩

def conjunctAfter (conjunct : Conjunct) (n : Nat) (kind : BreakClass) : Conjunct :=
  if GraphemeTable.consonant.has n then .consonant
  else if conjunct = .none then .none
  else if GraphemeTable.linker.has n then .linked
  else if (kind = .extend ∨ kind = .joiner) ∧ n ≠ 0x200C then conjunct
  else .none

def push (context : Context) (c : Char) : Context :=
  let kind := BreakClass.ofChar c
  ⟨kind,
   kind == .regional && !context.oddRegional,
   GraphemeTable.pictographic.has c.toNat || (kind == .extend && context.pictograph),
   kind == .joiner && context.pictograph,
   conjunctAfter context.conjunct c.toNat kind⟩

def joins (context : Context) (c : Char) : Bool :=
  let next := BreakClass.ofChar c
  match context.last, next with
  | .carriageReturn, .lineFeed => true
  | .carriageReturn, _ | .lineFeed, _ | .control, _ => false
  | _, .carriageReturn | _, .lineFeed | _, .control => false
  | _, .extend | _, .joiner | _, .spacingMark => true
  | .prepend, _ => true
  | .leading, .leading | .leading, .vowel | .leading, .leadingVowel
  | .leading, .leadingVowelTrailing => true
  | .leadingVowel, .vowel | .leadingVowel, .trailing | .vowel, .vowel | .vowel, .trailing => true
  | .leadingVowelTrailing, .trailing | .trailing, .trailing => true
  | _, .regional => context.oddRegional
  | _, _ =>
      (context.joinedPictograph && GraphemeTable.pictographic.has c.toNat) ||
        (context.conjunct == .linked && GraphemeTable.consonant.has c.toNat)

end Context

/-- The clusters of a text, the first of which starts with `current`. -/
def clustersFrom (context : Context) (current : List Char) : List Char → List (List Char)
  | [] => [current]
  | c :: rest =>
      if context.joins c then clustersFrom (context.push c) (current ++ [c]) rest
      else current :: clustersFrom (context.push c) [c] rest

def clusters : List Char → List (List Char)
  | [] => []
  | c :: rest => clustersFrom (Context.empty.push c) [c] rest

theorem flatten_clustersFrom :
    ∀ (text : List Char) (context : Context) (current : List Char),
      (clustersFrom context current text).flatten = current ++ text := by
  intro text
  induction text with
  | nil => intro context current; simp [clustersFrom]
  | cons c rest ih =>
      intro context current
      rw [clustersFrom]
      split
      · rw [ih, List.append_assoc, List.singleton_append]
      · rw [List.flatten_cons, ih, List.singleton_append]

theorem flatten_clusters (text : List Char) : (clusters text).flatten = text := by
  cases text with
  | nil => rfl
  | cons c rest => exact flatten_clustersFrom rest (Context.empty.push c) [c]

end SignedDifference.Text
