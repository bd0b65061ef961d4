/-
  Topics — dotted names such as `user.profile.update`.

  A name is a row of segments separated by dots.  A topic that may be
  published is non-empty, has no empty segment and no wildcard.

  * `segments` cuts a name at its dots, `dotted` joins segments again;
  * `topicDefect?` says what, if anything, keeps a name from being a topic;
  * `dotted_segments`: joining the segments of a name gives the name back.
-/

namespace Switchboard

/-! ## Segments -/

/-- Cuts a text at every dot; a text without a dot is one piece. -/
def cut : List Char → List (List Char)
  | [] => [[]]
  | c :: r => if c = '.' then [] :: cut r else (cut r).modifyHead (c :: ·)

/-- Joins pieces with a dot between neighbours. -/
def glue : List (List Char) → List Char
  | [] => []
  | [p] => p
  | p :: q :: r => p ++ '.' :: glue (q :: r)

/-- The segments of a dotted name. -/
def segments (name : String) : List String :=
  (cut name.toList).map String.ofList

/-- The dotted name with the given segments. -/
def dotted (parts : List String) : String :=
  String.ofList (glue (parts.map String.toList))

theorem cut_ne_nil (t : List Char) : cut t ≠ [] := by
  induction t with
  | nil => simp [cut]
  | cons c r ih =>
    unfold cut
    split
    · simp
    · cases h : cut r with
      | nil => exact absurd h ih
      | cons p ps => simp

theorem glue_cons_cons (c : Char) (p : List Char) (ps : List (List Char)) :
    glue ((c :: p) :: ps) = c :: glue (p :: ps) := by
  cases ps <;> simp [glue]

theorem glue_nil_cons {ps : List (List Char)} (h : ps ≠ []) : glue ([] :: ps) = '.' :: glue ps := by
  cases ps with
  | nil => exact absurd rfl h
  | cons q r => simp [glue]

theorem glue_cut (t : List Char) : glue (cut t) = t := by
  induction t with
  | nil => rfl
  | cons c r ih =>
    unfold cut
    split
    · next h => rw [glue_nil_cons (cut_ne_nil r), ih, h]
    · cases h : cut r with
      | nil => exact absurd h (cut_ne_nil r)
      | cons p ps => rw [List.modifyHead_cons, glue_cons_cons, ← h, ih]

/-- **Joining the segments of a name gives the name back.** -/
theorem dotted_segments (name : String) : dotted (segments name) = name := by
  simp [dotted, segments, List.map_map, Function.comp_def, glue_cut]

theorem segments_ne_nil (name : String) : segments name ≠ [] := by
  simp [segments, cut_ne_nil]

/-! ## Topics that may be published -/

/-- The segment that stands for any one or more segments of a topic. -/
def wildcard : String := "*"

/-- Whether the wildcard character occurs in a text. -/
def hasStar (s : String) : Bool := s.toList.contains '*'

/-- Why a name is no topic. -/
inductive TopicDefect where
  | empty
  | wildcard
  | emptySegment
  deriving DecidableEq, Repr

/-- The wording of a topic defect. -/
def TopicDefect.reason : TopicDefect → String
  | .empty => "topic is empty"
  | .wildcard => "wildcards are not allowed in published topics"
  | .emptySegment => "empty segment"

/-- The first defect of a name as a topic, `none` for a topic that may be
    published. -/
def topicDefect? (name : String) : Option TopicDefect :=
  if name = "" then some .empty
  else if hasStar name then some .wildcard
  else if (segments name).any (· = "") then some .emptySegment
  else none

end Switchboard
