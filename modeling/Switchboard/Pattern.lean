import Switchboard.Topic

/-
  Patterns — what a subscription listens on.

  A pattern is a dotted name with at most one wildcard segment `*`.  Where the
  wildcard stands decides what it stands for:

  * `exact`   `user.login` matches that topic only;
  * `under`   `user.*` matches every topic with more segments below `user`;
  * `ending`  `*.update` matches every topic with more segments before `update`;
  * `between` `user.*.update` matches topics of exactly that length, any one
    segment standing for the wildcard.

  `Pattern.parse` reads a pattern, `Pattern.text` writes it, `Pattern.accepts`
  is the meaning that every index of patterns has to agree with.
-/

namespace Switchboard

/-! ## Forms -/

/-- Which of the four forms a pattern has. -/
inductive PatternKind where
  | exact
  | under
  | ending
  | between
  deriving DecidableEq, Repr

/-- The name under which a form is shown to users. -/
def PatternKind.label : PatternKind → String
  | .exact => "exact"
  | .under => "prefix"
  | .ending => "suffix"
  | .between => "complex"

/-- A pattern, by the place of its wildcard; the lists hold the fixed
    segments around it. -/
inductive Pattern where
  | exact (topic : String)
  | under (fixed : List String)
  | ending (fixed : List String)
  | between (before after : List String)
  deriving DecidableEq, Repr

/-- Why a name is no pattern. -/
inductive PatternDefect where
  | empty
  | bareWildcard
  | emptySegment
  | partialWildcard
  | manyWildcards
  deriving DecidableEq, Repr

/-- The wording of a pattern defect. -/
def PatternDefect.reason : PatternDefect → String
  | .empty => "pattern is empty"
  | .bareWildcard => "a bare '*' would match every topic"
  | .emptySegment => "empty segment"
  | .partialWildcard => "'*' must occupy a whole segment"
  | .manyWildcards => "only one wildcard segment is allowed"

namespace Pattern

/-- The form of a pattern whose segments around its wildcard are given. -/
def around (before after : List String) : Pattern :=
  match before, after with
  | before, [] => .under before
  | [], after => .ending after
  | before, after => .between before after

/-- Reads a pattern, or says the first thing wrong with it. -/
def parse (name : String) : Except PatternDefect Pattern :=
  if name = "" then .error .empty
  else if name = wildcard then .error .bareWildcard
  else
    let parts := segments name
    if parts.any (· = "") then .error .emptySegment
    else if parts.any (fun s => hasStar s && s ≠ wildcard) then .error .partialWildcard
    else match parts.span (· ≠ wildcard) with
      | (_, []) => .ok (.exact name)
      | (before, _ :: after) =>
        if after.contains wildcard then .error .manyWildcards else .ok (around before after)

/-! ## Parts of a pattern -/

def kind : Pattern → PatternKind
  | .exact _ => .exact
  | .under _ => .under
  | .ending _ => .ending
  | .between _ _ => .between

/-- All segments of a pattern, the wildcard included. -/
def parts : Pattern → List String
  | .exact t => segments t
  | .under fixed => fixed ++ [wildcard]
  | .ending fixed => wildcard :: fixed
  | .between before after => before ++ wildcard :: after

/-- The pattern as written. -/
def text : Pattern → String
  | .exact t => t
  | p => dotted p.parts

/-- The number of segments of a pattern, the wildcard included. -/
def depth (p : Pattern) : Nat := p.parts.length

/-! ## Meaning -/

/-- Whether a topic with the given segments is matched by a pattern with a
    wildcard. -/
def acceptsParts : Pattern → List String → Bool
  | .exact t, ts => segments t == ts
  | .under fixed, ts => fixed.length < ts.length && fixed.isPrefixOf ts
  | .ending fixed, ts => fixed.length < ts.length && fixed.isSuffixOf ts
  | .between before after, ts =>
    ts.length == before.length + 1 + after.length &&
      before.isPrefixOf ts && after.isSuffixOf ts

/-- Whether a pattern matches a topic. -/
def accepts (p : Pattern) (topic : String) : Bool :=
  match p with
  | .exact t => t == topic
  | p => p.acceptsParts (segments topic)

end Pattern

end Switchboard
