import Aegis.Library.History
import Aegis.Library.Table
import Aegis.Policy.Yaml

/-! The engine as a store of policies, over whole histories of calls. -/

set_option autoImplicit false

namespace Aegis.Policy
open Library

inductive PolicyOp where
  | registerPolicy (policy : SecurityPolicy)
  | loadFromYaml (yamlPath : Path) (file : YamlFile)
  | loadFromJson (jsonStr : String)
  | registerDefaultStrictPythonPolicy

def PolicyEngine.register (policy : SecurityPolicy) : Proc PolicyEngine Status := do
  let engine ← Proc.get
  Proc.modify fun engine => (engine.registerPolicy policy).2
  pure (engine.registerPolicy policy).1

def jsonPolicy : SecurityPolicy where
  policyName := "json_imported_policy"
  networkRule := { blockCloudMetadata := true }

/-- The text is not looked at. -/
def loadFromJson (_jsonStr : String) : Proc PolicyEngine Status := PolicyEngine.register jsonPolicy

def policyCall : PolicyOp → Proc PolicyEngine Status
  | .registerPolicy policy => PolicyEngine.register policy
  | .loadFromYaml yamlPath file => loadFromYaml yamlPath file
  | .loadFromJson jsonStr => loadFromJson jsonStr
  | .registerDefaultStrictPythonPolicy => PolicyEngine.register strictPython

/-- The policy a call is given or builds. -/
def PolicyOp.record : PolicyOp → Option SecurityPolicy
  | .registerPolicy policy => some policy
  | .loadFromYaml yamlPath file =>
      if file.found = .yes ∧ file.opens then yamlPolicy yamlPath file.content else none
  | .loadFromJson _ => some jsonPolicy
  | .registerDefaultStrictPythonPolicy => some strictPython

def PolicyEngine.put (engine : PolicyEngine) (policy : SecurityPolicy) : PolicyEngine :=
  { engine with policies := engine.policies.insert policy.policyName policy }

/-- The call stores its record under the record's name, or it fails and stores nothing. -/
inductive PolicyResult (op : PolicyOp) (engine : PolicyEngine) : Outcome Status × PolicyEngine → Prop where
  | stored {policy : SecurityPolicy} (record : op.record = some policy) :
      PolicyResult op engine (.returned .success, engine.put policy)
  | failed {outcome : Outcome Status} (unsuccessful : outcome ≠ .returned .success) :
      PolicyResult op engine (outcome, engine)

theorem loadFromYaml_result (yamlPath : Path) (file : YamlFile) (engine : PolicyEngine) :
    PolicyResult (.loadFromYaml yamlPath file) engine ((loadFromYaml yamlPath file).ends engine) := by
  unfold loadFromYaml
  cases found : file.found with
  | throws => exact .failed (by simp)
  | no => exact .failed (by simp)
  | yes =>
    cases opens : file.opens with
    | false => exact .failed (by simp)
    | true =>
      cases parsed : yamlPolicy yamlPath file.content with
      | none => exact .failed (by simp)
      | some policy => exact .stored (by simp [PolicyOp.record, found, opens, parsed])

theorem policyCall_result (op : PolicyOp) (engine : PolicyEngine) :
    PolicyResult op engine ((policyCall op).ends engine) := by
  cases op with
  | registerPolicy policy => exact .stored rfl
  | loadFromYaml yamlPath file => exact loadFromYaml_result yamlPath file engine
  | loadFromJson jsonStr => exact .stored rfl
  | registerDefaultStrictPythonPolicy => exact .stored rfl

def policyStep (op : PolicyOp) (engine : PolicyEngine) : PolicyEngine := ((policyCall op).ends engine).2

/-- What a call writes under a name: its record, if the call is successful and the record has
the name. -/
def wrote (policyName : String) (op : PolicyOp) (engine : PolicyEngine) : Option SecurityPolicy :=
  if ((policyCall op).ends engine).1 = .returned .success then op.record.filter (·.policyName = policyName) else none

theorem getPolicy_put (engine : PolicyEngine) (policy : SecurityPolicy) (policyName : String) :
    (engine.put policy).getPolicy policyName =
      ((some policy).filter (·.policyName = policyName)).or (engine.getPolicy policyName) := by
  unfold PolicyEngine.getPolicy PolicyEngine.put
  by_cases same : policy.policyName = policyName
  · subst same
    simp [Option.filter]
  · simp [Option.filter, same, Finmap.lookup_insert_of_ne _ (Ne.symm same)]

theorem getPolicy_policyStep (policyName : String) (op : PolicyOp) (engine : PolicyEngine) :
    (policyStep op engine).getPolicy policyName = (wrote policyName op engine).or (engine.getPolicy policyName) := by
  have result := policyCall_result op engine
  unfold policyStep wrote
  generalize (policyCall op).ends engine = ended at result
  cases result with
  | stored record => rw [if_pos rfl, record, getPolicy_put]
  | failed unsuccessful => rw [if_neg unsuccessful, Option.none_or]

/-- The engine after its construction and a history of calls. -/
def engineAfter (ops : List PolicyOp) : PolicyEngine := runs policyStep ops .init

/-- The record of the last successful call for the name; the first call is the one the
constructor makes. -/
def lastPolicy (policyName : String) (ops : List PolicyOp) : Option SecurityPolicy :=
  lastWrite policyStep (wrote policyName) (.registerDefaultStrictPythonPolicy :: ops) {}

theorem getPolicy_engineAfter (policyName : String) (ops : List PolicyOp) :
    (engineAfter ops).getPolicy policyName = lastPolicy policyName ops := by
  have empty : ({} : PolicyEngine).getPolicy policyName = none := rfl
  have history := read_runs (fun engine : PolicyEngine => engine.getPolicy policyName) (getPolicy_policyStep policyName)
    (.registerDefaultStrictPythonPolicy :: ops) {}
  rw [empty, Option.or_none] at history
  exact history

namespace PolicyEngine

theorem evalSyscall_iff (engine : PolicyEngine) (policyName : String) (syscallNr : UInt32) :
    engine.evalSyscall policyName syscallNr = true ↔ ∃ policy, engine.getPolicy policyName = some policy ∧
      syscallNr ∉ policy.syscallRule.blockedSyscalls ∧
      (syscallNr ∈ policy.syscallRule.allowedSyscalls ∨ policy.syscallRule.defaultAllow = true) := by
  cases registered : engine.getPolicy policyName with
  | none =>
    have unknown : engine.policies.lookup policyName = none := registered
    simp [evalSyscall, unknown]
  | some policy =>
    rw [← Bool.not_eq_false, evalSyscall_false_iff registered]
    simp only [Option.some.injEq, exists_eq_left', ← Bool.not_eq_true]
    tauto

theorem evalNetworkEgress_iff (engine : PolicyEngine) (policyName : String) (ipv4 : UInt32) :
    engine.evalNetworkEgress policyName ipv4 = true ↔ ∃ policy, engine.getPolicy policyName = some policy ∧
      policy.networkRule.blockAllEgress = false ∧
      ¬ (ipv4 = metadataIp ∧ policy.networkRule.blockCloudMetadata = true) ∧
      ipv4 ∉ policy.networkRule.blockedIpsNetworkOrder := by
  cases registered : engine.getPolicy policyName with
  | none =>
    have unknown : engine.policies.lookup policyName = none := registered
    simp [evalNetworkEgress, unknown]
  | some policy =>
    rw [← Bool.not_eq_false, evalNetworkEgress_false_iff registered]
    simp only [Option.some.injEq, exists_eq_left', ← Bool.not_eq_true]
    tauto

end PolicyEngine

/-- The last writer of a name wins, and what it denies stays denied. -/
theorem last_writer_decides (ops : List PolicyOp) (policyName : String) :
    (engineAfter ops).getPolicy policyName = lastPolicy policyName ops ∧
    (∀ syscallNr, (engineAfter ops).evalSyscall policyName syscallNr = true ↔
      ∃ policy, lastPolicy policyName ops = some policy ∧ syscallNr ∉ policy.syscallRule.blockedSyscalls ∧
        (syscallNr ∈ policy.syscallRule.allowedSyscalls ∨ policy.syscallRule.defaultAllow = true)) ∧
    (∀ ipv4, (engineAfter ops).evalNetworkEgress policyName ipv4 = true ↔
      ∃ policy, lastPolicy policyName ops = some policy ∧ policy.networkRule.blockAllEgress = false ∧
        ¬ (ipv4 = metadataIp ∧ policy.networkRule.blockCloudMetadata = true) ∧
        ipv4 ∉ policy.networkRule.blockedIpsNetworkOrder) ∧
    ∀ op engine, ((policyCall op).ends engine).1 ≠ .returned .success → policyStep op engine = engine := by
  rw [← getPolicy_engineAfter]
  refine ⟨rfl, (engineAfter ops).evalSyscall_iff policyName, (engineAfter ops).evalNetworkEgress_iff policyName, ?_⟩
  intro op engine unsuccessful
  have result := policyCall_result op engine
  unfold policyStep
  generalize (policyCall op).ends engine = ended at result unsuccessful
  cases result with
  | stored record => exact absurd rfl unsuccessful
  | failed _ => rfl

end Aegis.Policy
