import ProxyRouting.Event
import ProxyRouting.Rule

/-!
# Rules of server records

Each record is checked and made into a rule, in order; the first fault of the first faulty record is
the answer if there is one.  A rule is reported when it is made, so the rules before a faulty record
are reported too.
-/

namespace ProxyRouting

namespace ServerRecord

/-- Compiles the patterns of a list, from the one with number `index` on. -/
def compilePatterns (list : PatternList) (index : Nat) :
    List String → Except RecordFault (List HostPattern)
  | [] => .ok []
  | pattern :: patterns =>
    if pattern = "" then .error (.patternEmpty list index)
    else
      match HostPattern.compile pattern with
      | .error e => .error (.patternInvalid list index e)
      | .ok p => do return p :: (← compilePatterns list (index + 1) patterns)

/-- The hosts of a record, which has to have exactly one list of patterns. -/
def compileHosts (r : ServerRecord) : Except RecordFault HostScope :=
  match r.forHosts, r.notForHosts with
  | [], [] => .error .noPatterns
  | _ :: _, _ :: _ => .error .bothPatternLists
  | patterns, [] => do return .only (← compilePatterns .forHosts 0 patterns)
  | [], patterns => do return .allBut (← compilePatterns .notForHosts 0 patterns)

def compile (r : ServerRecord) : Except RecordFault Rule := do
  let host ← match r.host with
    | some host => if host = "" then .error .hostMissing else .ok host
    | none => .error .hostMissing
  let port ← match r.port with
    | some port => if port = 0 then .error .portMissing else .ok port
    | none => .error .portMissing
  return ⟨r.forProtocols, ← r.compileHosts, ⟨r.kind, host, port⟩⟩

end ServerRecord

namespace HostScope

def positiveCount : HostScope → Nat
  | only ps => ps.length
  | allBut _ => 0

def negativeCount : HostScope → Nat
  | only _ => 0
  | allBut ps => ps.length

end HostScope

/-- What is told of a new rule. -/
def Rule.compiledEvent (index : Nat) (r : Rule) : Event :=
  .ruleCompiled index r.endpoint r.hosts.positiveCount r.hosts.negativeCount

/-- Compiles records, the first of which has the number `index`. -/
def compileFrom (index : Nat) : List ServerRecord → Except Error (List Rule) × List Event
  | [] => (.ok [], [])
  | record :: records =>
    match record.compile with
    | .error fault => (.error (.record index fault), [])
    | .ok rule =>
      let (rules, events) := compileFrom (index + 1) records
      (rules.map (rule :: ·), rule.compiledEvent index :: events)

def compileRules (records : List ServerRecord) : Except Error (List Rule) × List Event :=
  compileFrom 0 records

end ProxyRouting
