import TikvOperator.Effects

/-!
# Services

`Sync` keeps two kinds of Service in place: for every external listener whose access method is
NodePort, one NodePort Service per listed TiKV pod, and the headless peer Service.
`syncServiceForTikvCluster` creates a desired Service that does not exist; for one that exists and
differs, it submits the observed Service carrying the desired spec, with the observed ClusterIP
put back after the last-applied annotation is computed.

The NodePort Services are numbered by the pods' positions in the lister's answer, not by their
ordinals, and select the pod `basic-tikv-<position>` whatever the cluster is called.

## Main results

* `externalServices_ok`: the Services of all the listeners, each listener's numbering the listed
  pods by position.
* `syncServiceForTikvCluster_paused`, `syncServices_paused`: a paused cluster's Services are not
  touched.
* `syncServiceForTikvCluster_writes`, `syncServices_writes`: a Service sync changes only the log,
  with at most one Service write per desired Service.
* `syncServiceForTikvCluster_update`: the Service submitted on the update path.
* `getNewNodeportServiceForTikvCluster_podName`: a NodePort Service selects the pod
  `basic-tikv-<id>` whatever the cluster is called.
* `getNewNodeportServiceForTikvCluster_name_collision`: the Service names of two clusters collide
  when one cluster's name extends the other's by `-tikv-<id>-` and a prefix of its listener's
  name.
-/

namespace TikvOperator

/-- `corev1.ServiceTypeNodePort`, `corev1.ServiceTypeClusterIP` and `corev1.ProtocolTCP`. -/
def serviceTypeNodePort : String := "NodePort"
def serviceTypeClusterIP : String := "ClusterIP"
def protocolTCP : String := "TCP"

/-- The label the StatefulSet controller puts the pod's name under. -/
def podNameLabelKey : String := "statefulset.kubernetes.io/pod-name"

/-- The NodePort Service of one member pod, as both branches of
`getNewNodeportServiceForTikvCluster` build it from the member's labels, the infix of the
Service's name, the prefix of the selected pod's name and the target port. -/
def nodeportService (helpers : Helpers) (tc : TikvCluster) (id : Int)
    (extListener : ExternalListenerConfig) (nodePortExternalIP : String)
    (memberLabels : GoMap String) (nameInfix podPrefix : String) (targetPort : Int) : Service :=
  let nodePort :=
    if extListener.externalStartingPort > 0 then int32 (extListener.externalStartingPort + id)
    else 0
  let labels := helpers.mergeLabels memberLabels
    ((∅ : GoMap String).insert podNameLabelKey (podPrefix ++ toString id))
  { meta := { (default : ObjectMeta) with
      name := tc.name ++ nameInfix ++ toString id ++ "-" ++ extListener.name
      labels := labels
      ns := tc.ns
      ownerReferences := [helpers.getOwnerRef tc] }
    spec := { (default : ServiceSpec) with
      selector := labels
      type := serviceTypeNodePort
      ports := [{ name := tc.name ++ "-" ++ toString id ++ "-" ++ extListener.name
                  port := extListener.containerPort
                  nodePort := nodePort
                  targetPort := targetPort
                  protocol := protocolTCP }]
      externalIPs := [nodePortExternalIP] } }

/-- `getNewNodeportServiceForTikvCluster(tc, id, extListener, nodePortExternalIP, isPD)`. -/
def getNewNodeportServiceForTikvCluster (helpers : Helpers) (tc : TikvCluster) (id : Int)
    (extListener : ExternalListenerConfig) (nodePortExternalIP : String) (isPD : Bool) :
    Service :=
  if isPD then
    nodeportService helpers tc id extListener nodePortExternalIP (helpers.labelsPD tc.name)
      "-pb-" "basic-pd-" 2380
  else
    nodeportService helpers tc id extListener nodePortExternalIP (helpers.labelsTikv tc.name)
      "-tikv-" "basic-tikv-" 20160

/-- `SvcConfig`, with the fields `getNewServiceForTikvCluster` reads; `svcLabel` is
`SvcLabel(label.New().Instance(instance)).Labels()` as a function of the instance. -/
structure SvcConfig where
  name : String
  port : Int
  svcLabel : String → GoMap String
  memberName : String → String
  headless : Bool

/-- `getNewServiceForTikvCluster(tc, svcConfig)`. -/
def getNewServiceForTikvCluster (helpers : Helpers) (tc : TikvCluster) (svcConfig : SvcConfig) :
    Service :=
  let svcLabel := svcConfig.svcLabel tc.instanceName
  let svc : Service :=
    { meta := { (default : ObjectMeta) with
        name := svcConfig.memberName tc.name
        ns := tc.ns
        labels := svcLabel
        ownerReferences := [helpers.getOwnerRef tc] }
      spec := { (default : ServiceSpec) with
        ports := [{ name := svcConfig.name, port := svcConfig.port, nodePort := 0,
                    targetPort := svcConfig.port, protocol := protocolTCP }]
        selector := svcLabel
        publishNotReadyAddresses := true } }
  if svcConfig.headless then { svc with spec.clusterIP := "None" }
  else { svc with spec.type := serviceTypeClusterIP }

/-- The peer Service's configuration in `Sync`. -/
def peerSvcConfig (helpers : Helpers) : SvcConfig :=
  { name := "peer", port := 20160, headless := true, svcLabel := helpers.tikvLabels,
    memberName := tikvPeerMemberName }

/-- The NodePort Services of one listener: one per listed pod, numbered by its position. -/
def nodeportServices (helpers : Helpers) (tc : TikvCluster) (eListener : ExternalListenerConfig)
    (pods : List Pod) : List Service :=
  pods.enum.map fun p =>
    getNewNodeportServiceForTikvCluster helpers tc (int32 p.1) eListener p.2.hostIP false

/-- The listener loop of `Sync`: the NodePort Services of the listeners in order, the pods listed
again for each NodePort listener. -/
def externalServices (env : Env) (tc : TikvCluster) :
    List ExternalListenerConfig → Except Error (List Service)
  | [] => .ok []
  | eListener :: eListeners =>
    if eListener.accessMethod = serviceTypeNodePort then do
      let pods ← env.pods tc.name
      let rest ← externalServices env tc eListeners
      pure (nodeportServices env.helpers tc eListener pods ++ rest)
    else externalServices env tc eListeners

/-- `controller.SetServiceLastAppliedConfigAnnotation(svc)`, which is not among the sources;
modelled from the spec: the JSON of the Service's spec is recorded under the last-applied
annotation, the other annotations kept. -/
def setServiceLastAppliedConfigAnnotation (helpers : Helpers) (svc : Service) : Service :=
  let b := helpers.marshalServiceSpec svc.spec
  { svc with meta.annotations := svc.meta.annotations.insert helpers.lastAppliedConfigAnnotation b }

/-- The Service the update path submits: the observed one with the desired spec, annotated, and
the observed ClusterIP put back. -/
def updatedService (helpers : Helpers) (newSvc oldSvc : Service) : Service :=
  let svc := setServiceLastAppliedConfigAnnotation helpers { oldSvc with spec := newSvc.spec }
  { svc with spec.clusterIP := oldSvc.spec.clusterIP }

/-- `syncServiceForTikvCluster(tc, newSvc)`. -/
def syncServiceForTikvCluster (env : Env) (newSvc : Service) : SyncM Unit := do
  let tc ← getTc
  if tc.spec.paused then pure ()
  else
    match env.service newSvc.meta.name with
    | .error e =>
      if e.isNotFound then
        let newSvc := setServiceLastAppliedConfigAnnotation env.helpers newSvc
        emit (.createService newSvc) (env.createService newSvc)
      else throw e
    | .ok oldSvc =>
      let equal ← read (env.helpers.serviceEqual newSvc oldSvc)
      if !equal then
        let svc := updatedService env.helpers newSvc oldSvc
        emit (.updateService svc) (env.updateService svc)
      else pure ()

/-- The loop of `Sync` over the desired Services, stopping at the first error. -/
def syncServices (env : Env) : List Service → SyncM Unit
  | [] => pure ()
  | svc :: svcs => do
    syncServiceForTikvCluster env svc
    syncServices env svcs

/-! ## The generated Services -/

/-- With the pods listed, the listener loop yields the NodePort Services of the NodePort listeners
in order, each numbering the same pod list by position. -/
theorem externalServices_ok (env : Env) (tc : TikvCluster) {pods : List Pod}
    (hpods : env.pods tc.name = .ok pods) (eListeners : List ExternalListenerConfig) :
    externalServices env tc eListeners =
      .ok ((eListeners.filter fun l => decide (l.accessMethod = serviceTypeNodePort)).flatMap
        fun l => nodeportServices env.helpers tc l pods) := by
  induction eListeners with
  | nil => rfl
  | cons l eListeners ih =>
    by_cases hl : l.accessMethod = serviceTypeNodePort
    · simp [externalServices, hl, hpods, ih, bind, Except.bind, pure, Except.pure]
    · simp [externalServices, hl, ih]

/-- A pod listing that fails fails the loop as soon as a listener uses NodePort. -/
theorem externalServices_error (env : Env) (tc : TikvCluster) {e : Error}
    (hpods : env.pods tc.name = .error e) (eListeners : List ExternalListenerConfig)
    (hnode : ∃ l ∈ eListeners, l.accessMethod = serviceTypeNodePort) :
    externalServices env tc eListeners = .error e := by
  induction eListeners with
  | nil => simp at hnode
  | cons l eListeners ih =>
    by_cases hl : l.accessMethod = serviceTypeNodePort
    · simp [externalServices, hl, hpods, bind, Except.bind]
    · have : ∃ l ∈ eListeners, l.accessMethod = serviceTypeNodePort := by
        obtain ⟨l', hl', h⟩ := hnode
        rcases List.mem_cons.mp hl' with rfl | hl'
        · exact absurd h hl
        · exact ⟨l', hl', h⟩
      simp [externalServices, hl, ih this]

/-! ## Selectors and names of the NodePort Services -/

section NodePort

variable (helpers : Helpers) (tc : TikvCluster) (id : Int) (l : ExternalListenerConfig)
  (ip : String) (isPD : Bool)

theorem getNewNodeportServiceForTikvCluster_name :
    (getNewNodeportServiceForTikvCluster helpers tc id l ip isPD).meta.name =
      tc.name ++ (if isPD then "-pb-" else "-tikv-") ++ toString id ++ "-" ++ l.name := by
  cases isPD <;> rfl

/-- When `MergeLabels` lets the later map's entries win, a NodePort Service selects, and is
labelled with, the pod `basic-tikv-<id>`, or `basic-pd-<id>` for PD, whatever the cluster is
called. -/
theorem getNewNodeportServiceForTikvCluster_podName
    (hmerge : ∀ a b k v, b.lookup k = some v → (helpers.mergeLabels a b).lookup k = some v) :
    let svc := getNewNodeportServiceForTikvCluster helpers tc id l ip isPD
    let podName := (if isPD then "basic-pd-" else "basic-tikv-") ++ toString id
    svc.spec.selector.lookup podNameLabelKey = some podName ∧
      svc.meta.labels.lookup podNameLabelKey = some podName := by
  have h := fun a pre =>
    hmerge a ((∅ : GoMap String).insert podNameLabelKey (pre ++ toString id)) podNameLabelKey _
      (AList.lookup_insert _)
  cases isPD <;> exact ⟨h _ _, h _ _⟩

/-- Service names collide across clusters: the Service of cluster `N`, index `i` and listener
`p-tikv-<j>-q` has the name of the Service of cluster `N-tikv-<i>-p`, index `j` and listener
`q`. -/
theorem getNewNodeportServiceForTikvCluster_name_collision {tc' : TikvCluster}
    {l' : ExternalListenerConfig} (ip' : String) (j : Int) (p : String)
    (hname : tc'.name = tc.name ++ "-tikv-" ++ toString id ++ "-" ++ p)
    (hl : l.name = p ++ "-tikv-" ++ toString j ++ "-" ++ l'.name) :
    (getNewNodeportServiceForTikvCluster helpers tc id l ip false).meta.name =
      (getNewNodeportServiceForTikvCluster helpers tc' j l' ip' false).meta.name := by
  simp only [getNewNodeportServiceForTikvCluster_name, hname, hl, Bool.false_eq_true, ↓reduceIte,
    String.append_assoc]

/-! ### The names of one cluster's Services -/

/-- The NodePort Services of TiKV of one cluster have distinct names for distinct positions below
`2^31` or distinct listener names. -/
theorem nodeportName_inj {i j : Nat} (hi : i < 2147483648) (hj : j < 2147483648)
    {l' : ExternalListenerConfig} {ip' : String}
    (h : (getNewNodeportServiceForTikvCluster helpers tc (int32 i) l ip false).meta.name =
      (getNewNodeportServiceForTikvCluster helpers tc (int32 j) l' ip' false).meta.name) :
    i = j ∧ l.name = l'.name := by
  simp only [getNewNodeportServiceForTikvCluster_name, int32_natCast hi, int32_natCast hj,
    Bool.false_eq_true, ↓reduceIte] at h
  have hd := congrArg String.data h
  simp only [String.data_append, List.append_assoc, List.append_cancel_left_eq] at hd
  have key := append_sep_inj (not_mem_toString '-' rfl i) (not_mem_toString '-' rfl j) hd
  exact ⟨toString_inj key.1, String.ext key.2⟩

theorem getNewServiceForTikvCluster_name (svcConfig : SvcConfig) :
    (getNewServiceForTikvCluster helpers tc svcConfig).meta.name =
      svcConfig.memberName tc.name := by
  unfold getNewServiceForTikvCluster
  split <;> rfl

/-- No NodePort Service of TiKV is named as the peer Service: after `<cluster>-tikv-`, its name
goes on with a numeral and a `-`, the peer Service's with `peer`. -/
theorem nodeportName_ne_peer :
    (getNewNodeportServiceForTikvCluster helpers tc id l ip false).meta.name ≠
      (getNewServiceForTikvCluster helpers tc (peerSvcConfig helpers)).meta.name := by
  rw [getNewNodeportServiceForTikvCluster_name, getNewServiceForTikvCluster_name]
  intro h
  have hpeer : (peerSvcConfig helpers).memberName tc.name = tc.name ++ ("-tikv-" ++ "peer") :=
    congrArg (tc.name ++ ·) (by decide)
  rw [hpeer, if_neg Bool.false_ne_true, String.append_assoc, String.append_assoc,
    String.append_assoc] at h
  have hrest := String.append_cancel_left (String.append_cancel_left h)
  have hm : '-' ∈ "peer".data := by
    rw [← hrest, String.data_append, String.data_append]
    exact List.mem_append_right _ (List.mem_append_left _ (by decide))
  exact absurd hm (by decide)

end NodePort

/-- The Services `Sync` desires for a cluster, its NodePort Services and the peer Service, have
distinct names when its NodePort listeners have distinct names and at most `2^31` pods are
listed. -/
theorem desiredServices_nodup (env : Env) (tc : TikvCluster) {pods : List Pod}
    (hpods : env.pods tc.name = .ok pods) (hlen : pods.length ≤ 2147483648)
    (eListeners : List ExternalListenerConfig)
    (hnames : ((eListeners.filter fun l => decide (l.accessMethod = serviceTypeNodePort)).map
      (·.name)).Nodup) :
    ∃ svcs, externalServices env tc eListeners = .ok svcs ∧
      ((svcs ++ [getNewServiceForTikvCluster env.helpers tc (peerSvcConfig env.helpers)]).map
        (·.meta.name)).Nodup := by
  refine ⟨_, externalServices_ok env tc hpods eListeners, ?_⟩
  -- the names of one listener's Services, by position
  have hnp : ∀ l, (nodeportServices env.helpers tc l pods).map (·.meta.name) =
      (List.range pods.length).map fun i : Nat =>
        (getNewNodeportServiceForTikvCluster env.helpers tc (int32 i) l "" false).meta.name := by
    intro l
    rw [← List.enum_map_fst, List.map_map, nodeportServices, List.map_map]
    rfl
  have hmem : ∀ l x, x ∈ (nodeportServices env.helpers tc l pods).map (·.meta.name) →
      ∃ i : Nat, i < 2147483648 ∧ x =
        (getNewNodeportServiceForTikvCluster env.helpers tc (int32 i) l "" false).meta.name := by
    intro l x hx
    rw [hnp, List.mem_map] at hx
    obtain ⟨i, hi, rfl⟩ := hx
    exact ⟨i, by rw [List.mem_range] at hi; omega, rfl⟩
  rw [List.map_append, List.nodup_append, List.map_flatMap, List.nodup_flatMap]
  refine ⟨⟨fun l _ => ?_, ?_⟩, List.nodup_singleton _, ?_⟩
  · rw [hnp]
    refine (List.nodup_range _).map_on fun i hi j hj h => ?_
    rw [List.mem_range] at hi hj
    exact (nodeportName_inj env.helpers tc l "" (by omega) (by omega) h).1
  · refine (List.pairwise_map.mp hnames).imp fun hne x hxa hxb => ?_
    obtain ⟨i, hi, hxi⟩ := hmem _ x hxa
    obtain ⟨j, hj, hxj⟩ := hmem _ x hxb
    exact hne (nodeportName_inj env.helpers tc _ "" hi hj (hxi.symm.trans hxj)).2
  · intro x hx hpeer
    obtain ⟨l, -, hl⟩ := List.mem_flatMap.mp hx
    obtain ⟨i, -, hxi⟩ := hmem l x hl
    exact nodeportName_ne_peer env.helpers tc _ l "" (hxi.symm.trans (List.mem_singleton.mp hpeer))

/-- For the cluster `db`, the NodePort Services of index 0 select, and are labelled with, the
pods `basic-tikv-0` and `basic-pd-0`, which are not pods of `db`: its TiKV and PD pods are
`db-tikv-<j>` and `db-pd-<j>`. `mergeLabels` is `MergeLabels`, in which the later map wins. -/
theorem nodeport_service_selects_foreign_pod :
    let helpers : Helpers := { (default : Helpers) with mergeLabels := fun a b => b ∪ a }
    let tc : TikvCluster := { (default : TikvCluster) with
      name := "db", ns := "default", name_valid := by decide, ns_valid := by decide }
    let l : ExternalListenerConfig := ⟨"ext", 30000, 20160, serviceTypeNodePort⟩
    let tikv := getNewNodeportServiceForTikvCluster helpers tc 0 l "10.0.0.1" false
    let pd := getNewNodeportServiceForTikvCluster helpers tc 0 l "10.0.0.1" true
    tikv.spec.selector.lookup podNameLabelKey = some "basic-tikv-0" ∧
      tikv.meta.labels.lookup podNameLabelKey = some "basic-tikv-0" ∧
      pd.spec.selector.lookup podNameLabelKey = some "basic-pd-0" ∧
      pd.meta.labels.lookup podNameLabelKey = some "basic-pd-0" ∧
      ∀ j : Nat, "basic-tikv-0" ≠ tc.name ++ "-tikv-" ++ toString j ∧
        "basic-pd-0" ≠ tc.name ++ "-pd-" ++ toString j := by
  intro helpers tc l tikv pd
  have hmerge : ∀ a b k v, b.lookup k = some v → (helpers.mergeLabels a b).lookup k = some v :=
    fun a b k v h => (AList.lookup_union_left (AList.lookup_isSome.mp (by rw [h]; rfl))).trans h
  have hpod := fun isPD =>
    getNewNodeportServiceForTikvCluster_podName helpers tc 0 l "10.0.0.1" isPD hmerge
  obtain ⟨h1, h2⟩ := hpod false
  obtain ⟨h3, h4⟩ := hpod true
  refine ⟨h1, h2, h3, h4, fun j => ⟨fun h => ?_, fun h => ?_⟩⟩ <;>
    simpa [String.data_append] using congrArg (fun s : String => s.data.head?) h

/-! ## Syncing a Service -/

/-- A Service write: what `syncServiceForTikvCluster` may log. -/
def Action.isServiceWrite : Action → Bool
  | .createService _ | .updateService _ => true
  | _ => false

section Sync

variable (env : Env) (w : World)

theorem syncServiceForTikvCluster_paused (newSvc : Service) (h : w.tc.spec.paused = true) :
    syncServiceForTikvCluster env newSvc w = .ok () w := by
  simp [syncServiceForTikvCluster, h]

theorem syncServices_paused (svcs : List Service) (h : w.tc.spec.paused = true) :
    syncServices env svcs w = .ok () w := by
  induction svcs with
  | nil => rfl
  | cons svc svcs ih => simp [syncServices, syncServiceForTikvCluster_paused env w svc h, ih]

/-- One Service sync changes only the log, where it appends at most one Service write. -/
theorem syncServiceForTikvCluster_writes (newSvc : Service) :
    ∃ acts, outcomeWorld (syncServiceForTikvCluster env newSvc w) =
        { w with log := w.log ++ acts } ∧ acts.length ≤ 1 ∧ ∀ a ∈ acts, a.isServiceWrite := by
  unfold syncServiceForTikvCluster
  by_cases hp : w.tc.spec.paused
  · exact ⟨[], by simp [hp]⟩
  cases hs : env.service newSvc.meta.name with
  | error e =>
    by_cases hn : e.isNotFound
    · exact ⟨[.createService <| setServiceLastAppliedConfigAnnotation env.helpers newSvc],
        by simp [hp, hs, hn], by simp, by simp [Action.isServiceWrite]⟩
    · exact ⟨[], by simp [hp, hs, hn]⟩
  | ok oldSvc =>
    cases he : env.helpers.serviceEqual newSvc oldSvc with
    | error e => exact ⟨[], by simp [hp, hs, he]⟩
    | ok equal =>
      cases equal
      · exact ⟨[.updateService (updatedService env.helpers newSvc oldSvc)],
          by simp [hp, hs, he], by simp, by simp [Action.isServiceWrite]⟩
      · exact ⟨[], by simp [hp, hs, he]⟩

/-- The loop changes only the log, where it appends at most one Service write per desired
Service. -/
theorem syncServices_writes (svcs : List Service) :
    ∃ acts, outcomeWorld (syncServices env svcs w) = { w with log := w.log ++ acts } ∧
      acts.length ≤ svcs.length ∧ ∀ a ∈ acts, a.isServiceWrite := by
  induction svcs generalizing w with
  | nil => exact ⟨[], by simp [syncServices]⟩
  | cons svc svcs ih =>
    obtain ⟨acts, hw, hlen, hall⟩ := syncServiceForTikvCluster_writes env w svc
    simp only [syncServices, bind_run]
    cases hr : syncServiceForTikvCluster env svc w with
    | error e w' =>
      rw [hr, outcomeWorld_error] at hw
      exact ⟨acts, by simp [hw], by simp at hlen ⊢; omega, hall⟩
    | ok _ w' =>
      rw [hr, outcomeWorld_ok] at hw
      subst hw
      obtain ⟨acts', hw', hlen', hall'⟩ := ih ⟨w.tc, w.log ++ acts⟩
      refine ⟨acts ++ acts', by simp [hw'], by simp at hlen ⊢; omega, ?_⟩
      simpa [or_imp, forall_and] using ⟨hall, hall'⟩

end Sync

/-- On the update path the submitted Service is the observed one, its metadata kept but for the
last-applied annotation, which records the desired spec with the desired ClusterIP; its spec is
the desired spec with the observed ClusterIP, every other field, node ports included, as
desired. The update is the only write, and its answer is the result. -/
theorem syncServiceForTikvCluster_update (env : Env) (w : World) (newSvc oldSvc : Service)
    (hpaused : w.tc.spec.paused = false) (hold : env.service newSvc.meta.name = .ok oldSvc)
    (hne : env.helpers.serviceEqual newSvc oldSvc = .ok false) :
    ∃ svc, syncServiceForTikvCluster env newSvc w =
        (match env.updateService svc with
          | .ok u => .ok u { w with log := w.log ++ [.updateService svc] }
          | .error e => .error e { w with log := w.log ++ [.updateService svc] }) ∧
      svc.meta = { oldSvc.meta with
        annotations := oldSvc.meta.annotations.insert env.helpers.lastAppliedConfigAnnotation
          (env.helpers.marshalServiceSpec newSvc.spec) } ∧
      svc.spec = { newSvc.spec with clusterIP := oldSvc.spec.clusterIP } := by
  refine ⟨updatedService env.helpers newSvc oldSvc, ?_, rfl, rfl⟩
  cases hu : env.updateService (updatedService env.helpers newSvc oldSvc) <;>
    simp [syncServiceForTikvCluster, hpaused, hold, hne, emit_run, hu]

theorem syncServiceForTikvCluster_update_assigned_port :
    let oldSvc : Service := { (default : Service) with
      spec.clusterIP := "10.96.0.7"
      spec.ports := [{ (default : ServicePort) with nodePort := 31000 }] }
    let newSvc : Service := { (default : Service) with spec.ports := [default] }
    let env : Env := { (default : Env) with
      service := fun _ => .ok oldSvc, helpers.serviceEqual := fun _ _ => .ok false }
    (default : World).tc.spec.paused = false ∧ env.service newSvc.meta.name = .ok oldSvc ∧
      env.helpers.serviceEqual newSvc oldSvc = .ok false ∧
      ∃ svc, syncServiceForTikvCluster env newSvc default =
          (match env.updateService svc with
            | .ok u => .ok u { (default : World) with log := [.updateService svc] }
            | .error e => .error e { (default : World) with log := [.updateService svc] }) ∧
        svc.meta = { oldSvc.meta with
          annotations := oldSvc.meta.annotations.insert env.helpers.lastAppliedConfigAnnotation
            (env.helpers.marshalServiceSpec newSvc.spec) } ∧
        svc.spec = { newSvc.spec with clusterIP := oldSvc.spec.clusterIP } := by
  intro oldSvc newSvc env
  exact ⟨rfl, rfl, rfl, syncServiceForTikvCluster_update env default newSvc oldSvc rfl rfl rfl⟩

/-- A desired NodePort 0 is submitted as 0: the port the API server assigned to the observed
Service is not carried over. -/
theorem syncServiceForTikvCluster_drops_assigned_nodePort :
    let oldSvc : Service := { (default : Service) with
      spec.ports := [{ (default : ServicePort) with nodePort := 31000 }] }
    let newSvc : Service := { (default : Service) with spec.ports := [default] }
    let env : Env := { (default : Env) with
      service := fun _ => .ok oldSvc, helpers.serviceEqual := fun _ _ => .ok false }
    (outcomeWorld (syncServiceForTikvCluster env newSvc default)).log.map
      (fun | .updateService svc => svc.spec.ports.map (·.nodePort) | _ => []) = [[0]] := by
  rfl

/-! ## Two clusters, one Service name -/

/-- Two clusters of one namespace, `a` and `a-tikv-0-b`, generate the same NodePort Service name
`a-tikv-0-b-tikv-0-c`, for the listeners `b-tikv-0-c` and `c` and index 0. Syncing the second
cluster's Service finds the first cluster's by that name and overwrites it: the submitted Service
keeps the first cluster's owner reference and labels and selects the second cluster's pods. -/
theorem nodeport_service_name_collision :
    let helpers : Helpers := { (default : Helpers) with
      mergeLabels := fun a b => b ∪ a
      labelsTikv := fun n => (∅ : GoMap String).insert "app.kubernetes.io/instance" n
      getOwnerRef := fun tc => { (default : OwnerReference) with name := tc.name }
      serviceEqual := fun _ _ => .ok false }
    let tc1 : TikvCluster := { (default : TikvCluster) with
      name := "a", ns := "default", name_valid := by decide, ns_valid := by decide }
    let tc2 : TikvCluster := { (default : TikvCluster) with
      name := "a-tikv-0-b", ns := "default", name_valid := by decide, ns_valid := by decide }
    let svc1 := getNewNodeportServiceForTikvCluster helpers tc1 0
      ⟨"b-tikv-0-c", 30000, 20160, serviceTypeNodePort⟩ "10.0.0.1" false
    let svc2 := getNewNodeportServiceForTikvCluster helpers tc2 0
      ⟨"c", 30000, 20160, serviceTypeNodePort⟩ "10.0.0.2" false
    let env : Env := { (default : Env) with
      helpers := helpers
      service := fun name => if name = svc1.meta.name
        then .ok <| setServiceLastAppliedConfigAnnotation helpers svc1
        else .error (.notFound name)
      updateService := fun _ => .ok () }
    tc1.name ≠ tc2.name ∧ tc1.ns = tc2.ns ∧ svc1.meta.name = svc2.meta.name ∧
      (outcomeWorld (syncServiceForTikvCluster env svc2 ⟨tc2, []⟩)).log.map (fun
        | .updateService svc => some (svc.meta.name, svc.meta.ownerReferences.map (·.name),
            svc.meta.labels.lookup "app.kubernetes.io/instance",
            svc.spec.selector.lookup "app.kubernetes.io/instance")
        | _ => none) =
        [some ("a-tikv-0-b-tikv-0-c", ["a"], some "a", some "a-tikv-0-b")] := by
  intro helpers tc1 tc2 svc1 svc2 env
  exact ⟨by decide, rfl, getNewNodeportServiceForTikvCluster_name_collision helpers tc1 0 _
    "10.0.0.1" "10.0.0.2" 0 "b" (by decide) (by decide), by decide⟩

end TikvOperator
