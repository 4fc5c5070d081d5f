import TikvOperator.Effects

/-!
# Upgrade detection

`tikvStatefulSetIsUpgrading` decides whether the TiKV StatefulSet is mid-upgrade: the
StatefulSet says so itself, or a listed pod runs a revision other than the update revision
recorded in the cluster's status. The pod loop returns at the first pod that either lacks the
`controller-revision-hash` label (not upgrading) or carries a stale one (upgrading), so on a
list that mixes the two the answer depends on which comes first. On lists whose pods all carry
the label the answer is order-independent: `podsUpgrading_perm`.
-/

namespace TikvOperator

/-- `apps.ControllerRevisionHashLabelKey`. -/
def controllerRevisionHashLabelKey : String := "controller-revision-hash"

/-- The pod loop of `tikvStatefulSetIsUpgrading`. The update revision is read through the
status's StatefulSet pointer, which is nil when `none`. -/
def podsUpgrading (updateRevision : Option String) : List Pod → Except Error Bool
  | [] => .ok false
  | pod :: pods =>
    match pod.meta.labels.lookup controllerRevisionHashLabelKey with
    | none => .ok false
    | some revisionHash =>
      match updateRevision with
      | none => .error .nilPointer
      | some rev => if revisionHash ≠ rev then .ok true else podsUpgrading updateRevision pods

/-- `tikvStatefulSetIsUpgrading(podLister, pdControl, set, tc)`, with the package's
`statefulSetIsUpgrading`. -/
def tikvStatefulSetIsUpgrading (statefulSetIsUpgrading : StatefulSet → Bool)
    (podLister : String → Except Error (List Pod)) (set : StatefulSet) (tc : TikvCluster) :
    Except Error Bool :=
  if statefulSetIsUpgrading set then .ok true
  else do
    let tikvPods ← podLister tc.instanceName
    podsUpgrading (tc.status.tikv.statefulSet.map (·.updateRevision)) tikvPods

/-- A pod the StatefulSet controller has labelled with its revision. -/
def HasRevision (pod : Pod) : Prop := controllerRevisionHashLabelKey ∈ pod.meta.labels

instance : DecidablePred HasRevision := fun pod =>
  inferInstanceAs (Decidable (controllerRevisionHashLabelKey ∈ pod.meta.labels))

/-- On labelled pods the loop answers whether some pod's revision is stale. -/
theorem podsUpgrading_of_labelled (rev : String) (pods : List Pod)
    (hl : ∀ pod ∈ pods, HasRevision pod) :
    podsUpgrading (some rev) pods =
      .ok (pods.any fun pod =>
        pod.meta.labels.lookup controllerRevisionHashLabelKey ≠ some rev) := by
  induction pods with
  | nil => rfl
  | cons pod pods ih =>
    obtain ⟨hash, hh⟩ := Option.isSome_iff_exists.mp
      (AList.lookup_isSome.mpr (hl pod (List.mem_cons_self pod pods)))
    by_cases hr : hash = rev
    · simp [podsUpgrading, hh, hr, ih fun p hp => hl p (List.mem_cons_of_mem pod hp)]
    · simp [podsUpgrading, hh, hr]

/-- With no update revision, a labelled pod dereferences the nil pointer. -/
theorem podsUpgrading_none_of_labelled (pods : List Pod) (hl : ∀ pod ∈ pods, HasRevision pod) :
    podsUpgrading none pods = if pods.isEmpty then .ok false else .error .nilPointer := by
  cases pods with
  | nil => rfl
  | cons pod pods =>
    obtain ⟨hash, hh⟩ := Option.isSome_iff_exists.mp
      (AList.lookup_isSome.mpr (hl pod (List.mem_cons_self pod pods)))
    simp [podsUpgrading, hh]

theorem podsUpgrading_perm (rev : Option String) {pods pods' : List Pod} (hp : pods.Perm pods')
    (hl : ∀ pod ∈ pods, HasRevision pod) : podsUpgrading rev pods = podsUpgrading rev pods' := by
  have hl' : ∀ pod ∈ pods', HasRevision pod := fun p h => hl p (hp.mem_iff.mpr h)
  cases rev with
  | none =>
    have he : pods.isEmpty = pods'.isEmpty := by
      cases pods <;> cases pods' <;> simp [List.isEmpty] <;> simpa using hp.length_eq
    rw [podsUpgrading_none_of_labelled _ hl, podsUpgrading_none_of_labelled _ hl', he]
  | some rev =>
    rw [podsUpgrading_of_labelled _ _ hl, podsUpgrading_of_labelled _ _ hl']
    congr 1
    rw [Bool.eq_iff_iff]
    simp only [List.any_eq_true, hp.mem_iff]

/-- The phase `syncTikvClusterStatus` derives from the upgrade check and the PD phase. -/
def tikvPhase (upgrading : Bool) (pdPhase : String) : String :=
  if upgrading && pdPhase != upgradePhase then upgradePhase else normalPhase

theorem tikvStatefulSetIsUpgrading_perm (isUpgrading : StatefulSet → Bool) (set : StatefulSet)
    (tc : TikvCluster) {lister lister' : String → Except Error (List Pod)} {pods pods' : List Pod}
    (h : lister tc.instanceName = .ok pods) (h' : lister' tc.instanceName = .ok pods')
    (hp : pods.Perm pods') (hl : ∀ pod ∈ pods, HasRevision pod) :
    tikvStatefulSetIsUpgrading isUpgrading lister set tc =
      tikvStatefulSetIsUpgrading isUpgrading lister' set tc := by
  unfold tikvStatefulSetIsUpgrading
  rw [h, h']
  split
  · rfl
  · exact podsUpgrading_perm _ hp hl

theorem tikvStatefulSetIsUpgrading_perm_two_revisions :
    let pod (rev : String) : Pod := { (default : Pod) with meta := { (default : ObjectMeta) with
      labels := (∅ : GoMap String).insert controllerRevisionHashLabelKey rev } }
    let tc : TikvCluster := { (default : TikvCluster) with
      status.tikv.statefulSet := some { (default : StatefulSetStatus) with updateRevision := "new" } }
    List.Perm [pod "new", pod "old"] [pod "old", pod "new"] ∧
      (∀ p ∈ [pod "new", pod "old"], HasRevision p) ∧
      tikvStatefulSetIsUpgrading (fun _ => false) (fun _ => .ok [pod "new", pod "old"]) default tc =
        tikvStatefulSetIsUpgrading (fun _ => false) (fun _ => .ok [pod "old", pod "new"]) default tc :=
  ⟨.swap _ _ _, by decide,
    tikvStatefulSetIsUpgrading_perm _ _ _ rfl rfl (.swap _ _ _) (by decide)⟩

/-- A pod without the revision label listed before one with a stale revision hides it. The
`statefulSetIsUpgrading` used is the answer for a StatefulSet whose current and update revisions
agree. -/
theorem tikvStatefulSetIsUpgrading_order_dependent :
    ¬ ∀ (isUpgrading : StatefulSet → Bool) (set : StatefulSet) (tc : TikvCluster)
        (pods pods' : List Pod), pods.Perm pods' →
      tikvStatefulSetIsUpgrading isUpgrading (fun _ => .ok pods) set tc =
        tikvStatefulSetIsUpgrading isUpgrading (fun _ => .ok pods') set tc := by
  intro h
  let unlabelled : Pod := default
  let stale : Pod := { unlabelled with meta := { unlabelled.meta with
    labels := (∅ : GoMap String).insert controllerRevisionHashLabelKey "old" } }
  let tc : TikvCluster := { (default : TikvCluster) with
    status.tikv.statefulSet := some { (default : StatefulSetStatus) with updateRevision := "new" } }
  have hswap := h (fun _ => false) default tc _ _ (.swap stale unlabelled [])
  have hl : tikvStatefulSetIsUpgrading (fun _ => false) (fun _ => .ok [unlabelled, stale])
      default tc = .ok false := rfl
  have hr : tikvStatefulSetIsUpgrading (fun _ => false) (fun _ => .ok [stale, unlabelled])
      default tc = .ok true := rfl
  rw [hl, hr] at hswap
  cases hswap

end TikvOperator
