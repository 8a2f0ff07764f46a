/-!
Answers to the questions of allocation, with their reasons.
-/

namespace ClusterControl

inductive Outcome
  | yes
  | throttle
  | no
  deriving DecidableEq, Repr

namespace Outcome

def name : Outcome → String
  | yes => "YES"
  | throttle => "THROTTLE"
  | no => "NO"

/-- The more restrictive of two outcomes. -/
def worse : Outcome → Outcome → Outcome
  | no, _ => no
  | _, no => no
  | throttle, _ => throttle
  | _, throttle => throttle
  | yes, yes => yes

end Outcome

inductive Decision
  | single (outcome : Outcome) (label : Option String) (text : Option String)
  | multi (parts : List Decision)
  deriving Repr

namespace Decision

/-- The answer without a reason. -/
def bare (outcome : Outcome) : Decision :=
  .single outcome none none

def yes : Decision := bare .yes

def because (outcome : Outcome) (label text : String) : Decision :=
  .single outcome label text

def allow (label text : String) : Decision := because .yes label text

def delay (label text : String) : Decision := because .throttle label text

def refuse (label text : String) : Decision := because .no label text

mutual

/-- A decision of several parts is as restrictive as the worst of them. -/
def outcome : Decision → Outcome
  | .single outcome _ _ => outcome
  | .multi parts => worst parts

def worst : List Decision → Outcome
  | [] => .yes
  | d :: ds => d.outcome.worse (worst ds)

end

def isYes (d : Decision) : Bool :=
  d.outcome = .yes

def isNo (d : Decision) : Bool :=
  d.outcome = .no

def label? : Decision → Option String
  | .single _ label _ => label
  | .multi _ => none

def text? : Decision → Option String
  | .single _ _ text => text
  | .multi _ => none

/-- The parts; a single decision is its own part. -/
def parts : Decision → List Decision
  | .single outcome label text => [.single outcome label text]
  | .multi parts => parts

mutual

def render : Decision → String
  | .single outcome label text =>
    outcome.name ++ (label.map fun l => s!"({l})").getD "" ++ (text.map fun t => s!": {t}").getD ""
  | .multi parts => ", ".intercalate (renderParts parts)

def renderParts : List Decision → List String
  | [] => []
  | d :: ds => ("[" ++ d.render ++ "]") :: renderParts ds

end

end Decision

end ClusterControl
