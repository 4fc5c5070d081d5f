import TikvOperator.Types

/-!
# Component settings

`BaseTiKVSpec()` reads a TiKV setting through `componentAccessorImpl`: the component's own
value when it sets one, else the cluster-level value, else a default. Maps are merged key by key,
the component's entries overriding the cluster's.

## Main results

* `lookup_copyEntries`: a merged map, key by key.
* `nodeSelector_annotations_union`: `NodeSelector()`, `Annotations()` and the pod spec's node
  selector are the right-biased unions of the cluster's and the component's maps.
-/

namespace TikvOperator

/-- `corev1.DNSClusterFirst`, `corev1.DNSClusterFirstWithHostNet` and
`corev1.RestartPolicyAlways`. -/
def dnsClusterFirst : String := "ClusterFirst"
def dnsClusterFirstWithHostNet : String := "ClusterFirstWithHostNet"
def restartPolicyAlways : String := "Always"

/-- `v1alpha1.ConfigUpdateStrategyInPlace` and `v1alpha1.ConfigUpdateStrategyRollingUpdate`. -/
def configUpdateStrategyInPlace : String := "InPlace"
def configUpdateStrategyRollingUpdate : String := "RollingUpdate"

/-- `defaultHostNetwork`. -/
def defaultHostNetwork : Bool := false

/-- `componentAccessorImpl`: the cluster-level spec and the component's overrides. -/
structure ComponentAccessor where
  clusterSpec : TikvClusterSpec
  componentSpec : ComponentSpec

/-- Copies every entry of `m` into `acc`, as `for k, v := range m { acc[k] = v }` does. -/
def copyEntries (acc m : GoMap String) : GoMap String :=
  m.entries.foldl (fun acc e => acc.insert e.1 e.2) acc

namespace ComponentAccessor

variable (a : ComponentAccessor)

def podSecurityContext : Option PodSecurityContext := a.componentSpec.podSecurityContext

def imagePullPolicy : String := a.componentSpec.imagePullPolicy.getD a.clusterSpec.imagePullPolicy

def hostNetwork : Bool :=
  match a.componentSpec.hostNetwork.or a.clusterSpec.hostNetwork with
  | some hostNetwork => hostNetwork
  | none => defaultHostNetwork

def affinity : Option Affinity := a.componentSpec.affinity.or a.clusterSpec.affinity

def priorityClassName : Option String :=
  a.componentSpec.priorityClassName.or a.clusterSpec.priorityClassName

def schedulerName : String := a.componentSpec.schedulerName.getD a.clusterSpec.schedulerName

def nodeSelector : GoMap String :=
  copyEntries (copyEntries ∅ a.clusterSpec.nodeSelector) a.componentSpec.nodeSelector

def annotations : GoMap String :=
  copyEntries (copyEntries ∅ a.clusterSpec.annotations) a.componentSpec.annotations

def tolerations : List Toleration :=
  if a.componentSpec.tolerations.length = 0 then a.clusterSpec.tolerations
  else a.componentSpec.tolerations

def dnsPolicy : String := if a.hostNetwork then dnsClusterFirstWithHostNet else dnsClusterFirst

/-- `ConfigUpdateStrategy()`: an empty strategy, left by objects created before the field
existed, reads as `InPlace`. -/
def configUpdateStrategy : String :=
  let strategy := a.componentSpec.configUpdateStrategy.getD a.clusterSpec.configUpdateStrategy
  if strategy = "" then configUpdateStrategyInPlace else strategy

def buildPodSpec : PodSpec :=
  { (default : PodSpec) with
    schedulerName := a.schedulerName
    affinity := a.affinity
    nodeSelector := a.nodeSelector
    hostNetwork := a.hostNetwork
    restartPolicy := restartPolicyAlways
    tolerations := a.tolerations
    securityContext := a.podSecurityContext
    priorityClassName := a.priorityClassName.getD "" }

def env : List EnvVar := a.componentSpec.env

end ComponentAccessor

/-- `tc.BaseTiKVSpec()`. -/
def TikvCluster.baseTiKVSpec (tc : TikvCluster) : ComponentAccessor :=
  ⟨tc.spec, tc.spec.tikv.component⟩

/-! ## Merged settings -/

theorem lookup_foldl_insert (k : String) (l : List (Σ _ : String, String)) (hl : l.NodupKeys)
    (acc : GoMap String) :
    (l.foldl (fun acc e => acc.insert e.1 e.2) acc).lookup k = (l.dlookup k).or (acc.lookup k) := by
  induction l generalizing acc with
  | nil => simp
  | cons e l ih =>
    obtain ⟨k', v⟩ := e
    rw [List.foldl_cons, ih (List.nodupKeys_cons.mp hl).2]
    by_cases hk : k = k'
    · subst hk
      simp [List.dlookup_eq_none.mpr (List.nodupKeys_cons.mp hl).1, AList.lookup_insert]
    · simp [List.dlookup_cons_ne l ⟨k', v⟩ hk, AList.lookup_insert_ne hk]

theorem lookup_copyEntries (acc m : GoMap String) (k : String) :
    (copyEntries acc m).lookup k = (m.lookup k).or (acc.lookup k) :=
  lookup_foldl_insert k m.entries m.nodupKeys acc

/-- The right-biased union of `base` and `over`, in the words of a merging contract: the keys of
both maps, the value of `over` where it has the key, and the value of `base` elsewhere. -/
def IsRightBiasedUnion (base over m : GoMap String) : Prop :=
  (∀ k, k ∈ m ↔ k ∈ base ∨ k ∈ over) ∧
    (∀ k v, over.lookup k = some v → m.lookup k = some v) ∧
    ∀ k, k ∉ over → m.lookup k = base.lookup k

/-- Copying `base` and then `over` into an empty map builds their right-biased union. -/
theorem copyEntries_isRightBiasedUnion (base over : GoMap String) :
    IsRightBiasedUnion base over (copyEntries (copyEntries ∅ base) over) := by
  have h : ∀ k, (copyEntries (copyEntries ∅ base) over).lookup k =
      (over.lookup k).or (base.lookup k) := by simp [lookup_copyEntries]
  refine ⟨fun k => ?_, fun k v hv => by rw [h, hv]; rfl,
    fun k hk => by rw [h, AList.lookup_eq_none.mpr hk]; rfl⟩
  simp only [← AList.lookup_isSome, h]
  cases over.lookup k <;> cases base.lookup k <;> simp

namespace ComponentAccessor

variable (a : ComponentAccessor)

/-- `NodeSelector()` and `Annotations()` return the right-biased unions of the cluster's and the
component's maps, and the pod spec `BuildPodSpec()` builds carries that union as its node
selector. -/
theorem nodeSelector_annotations_union :
    IsRightBiasedUnion a.clusterSpec.nodeSelector a.componentSpec.nodeSelector a.nodeSelector ∧
      IsRightBiasedUnion a.clusterSpec.annotations a.componentSpec.annotations a.annotations ∧
      IsRightBiasedUnion a.clusterSpec.nodeSelector a.componentSpec.nodeSelector
        a.buildPodSpec.nodeSelector :=
  ⟨copyEntries_isRightBiasedUnion _ _, copyEntries_isRightBiasedUnion _ _,
    copyEntries_isRightBiasedUnion _ _⟩

end ComponentAccessor

end TikvOperator
