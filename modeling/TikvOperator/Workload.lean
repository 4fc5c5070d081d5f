import TikvOperator.Component
import TikvOperator.Effects
import TikvOperator.Shell

/-!
# The desired StatefulSet and ConfigMap

`getNewTiKVSetForTikvCluster` synthesises the TiKV StatefulSet from the cluster's spec and the
ConfigMap the cycle wrote; its one failure is a storage request that does not parse, reported
with the cluster's namespace and name. `getTikVConfigMap` renders the configuration and start
script, and `syncTiKVConfigMap` upserts the result, keeping the name of the ConfigMap the running
pods mount when the update strategy is `InPlace`.

## Main results

* `getNewTiKVSetForTikvCluster_error`: the synthesis fails exactly when the storage request does
  not parse, with a message naming the field and the cluster.
* `sysctlInitContainers_ne_nil_iff`: when the pod has the sysctl init container.
* `sysctlCommand_words`, `getNewTiKVSetForTikvCluster_sysctl_init`: the shell reads the init
  container's command back as `sysctl -w` and one `name=value` per sysctl when names and values
  are literal shell words; `sysctl_value_with_blank_split`: a value holding a blank is cut in two.
* `syncTiKVConfigMap_writes`: the ConfigMap sync writes exactly when the config is set.
-/

namespace TikvOperator

/-- `label.TiKVLabelVal`, the TiKV member type's name. -/
def tikvLabelVal : String := "tikv"

/-- The init container `getNewTiKVSetForTikvCluster` adds when the sysctl-init annotation asks for
it and the pod security context sets sysctls. `Annotations()` is never nil, so its nil test is
always passed. -/
def sysctlInitContainers (helpers : Helpers) (tc : TikvCluster) : List Container :=
  let baseTiKVSpec := tc.baseTiKVSpec
  match baseTiKVSpec.annotations.lookup helpers.annSysctlInit with
  | some init =>
    if init = helpers.annSysctlInitVal then
      match baseTiKVSpec.podSecurityContext with
      | some podSecurityContext =>
        if podSecurityContext.sysctls.length > 0 then
          let sysctls := podSecurityContext.sysctls.foldl
            (fun sysctls sysctl => sysctls ++ " " ++ sysctl.name ++ "=" ++ sysctl.value) "sysctl -w"
          [{ (default : Container) with
              name := "init"
              image := helpers.helperImage tc
              command := ["sh", "-c", sysctls]
              privileged := some true }]
        else []
      | none => []
    else []
  | none => []

/-- The pod security context: the component's, its sysctls cleared when the init container
sets them instead. -/
def tikvPodSecurityContext (tc : TikvCluster) (initContainers : List Container) :
    Option PodSecurityContext :=
  if initContainers.length > 0 then
    tc.baseTiKVSpec.podSecurityContext.map fun psc => { psc with sysctls := [] }
  else tc.baseTiKVSpec.podSecurityContext

/-- The error of a storage request that does not parse. -/
def storageRequestError (tc : TikvCluster) (err : String) : Error :=
  .failed ("cannot parse storage request for tikv, tidbcluster " ++ tc.ns ++ "/" ++ tc.name ++
    ", error: " ++ err)

/-- `getNewTiKVSetForTikvCluster(tc, cm)`. The volume claim template is kept as its storage class
and resources. -/
def getNewTiKVSetForTikvCluster (helpers : Helpers) (tc : TikvCluster) (cm : Option ConfigMap) :
    Except Error StatefulSet := do
  let baseTiKVSpec := tc.baseTiKVSpec
  let tikvConfigMap := match cm with
    | some cm => cm.meta.name
    | none => helpers.memberConfigMapName tc
  let volMounts := [helpers.annotationsMount,
    ⟨tikvLabelVal, false, "/var/lib/tikv"⟩,
    ⟨"config", true, "/etc/tikv"⟩,
    ⟨"startup-script", true, "/usr/local/bin"⟩] ++
    (if helpers.isTLSClusterEnabled tc then [⟨"tikv-tls", true, "/var/lib/tikv-tls"⟩] else [])
  let vols := [helpers.annotationsVolume,
    ⟨"config", .configMap tikvConfigMap [("config-file", "tikv.toml")]⟩,
    ⟨"startup-script", .configMap tikvConfigMap [("startup-script", "tikv_start_script.sh")]⟩] ++
    (if helpers.isTLSClusterEnabled tc then
      [⟨"tikv-tls", .secret (helpers.clusterTLSSecretName tc.name)⟩] else [])
  let initContainers := sysctlInitContainers helpers tc
  let podSecurityContext := tikvPodSecurityContext tc initContainers
  let storageRequest ← match helpers.parseStorageRequest tc.spec.tikv.resources.requests with
    | .ok r => pure r
    | .error err => throw (storageRequestError tc err)
  let tikvLabel := helpers.tikvLabels tc.instanceName
  let setName := tikvMemberName tc.name
  let podAnnotations := helpers.combineAnnotations helpers.annProm baseTiKVSpec.annotations
  let stsAnnotations := helpers.stsAnnotations tc
  let capacity := helpers.tikvCapacity tc.spec.tikv.resources.limits
  let headlessSvcName := tikvPeerMemberName tc.name
  let env : List EnvVar := [⟨"NAMESPACE", "", some "metadata.namespace"⟩,
    ⟨"CLUSTER_NAME", tc.name, none⟩,
    ⟨"HEADLESS_SERVICE_NAME", headlessSvcName, none⟩,
    ⟨"CAPACITY", capacity, none⟩,
    ⟨"TZ", tc.spec.timezone, none⟩] ++
    (if baseTiKVSpec.hostNetwork then [⟨"POD_NAME", "", some "metadata.name"⟩] else [])
  let tikvContainer : Container :=
    { name := tikvLabelVal
      image := helpers.tikvImage tc
      imagePullPolicy := baseTiKVSpec.imagePullPolicy
      command := ["/bin/sh", "/usr/local/bin/tikv_start_script.sh"]
      privileged := helpers.tikvContainerPrivilege tc
      ports := [("server", 20160)]
      volumeMounts := volMounts
      resources := helpers.containerResource tc.spec.tikv.resources
      env := helpers.appendEnv env baseTiKVSpec.env }
  let podSpec := baseTiKVSpec.buildPodSpec
  let podSpec := if baseTiKVSpec.hostNetwork then
    { podSpec with dnsPolicy := dnsClusterFirstWithHostNet } else podSpec
  let podSpec := { podSpec with
    volumes := vols
    securityContext := podSecurityContext
    initContainers := initContainers
    containers := [tikvContainer]
    serviceAccountName := tc.spec.tikv.serviceAccount }
  pure
    { meta := { (default : ObjectMeta) with
        name := setName
        ns := tc.ns
        labels := tikvLabel
        annotations := stsAnnotations
        ownerReferences := [helpers.getOwnerRef tc] }
      spec :=
        { replicas := helpers.tikvStsDesiredReplicas tc
          selector := tikvLabel
          template := { labels := tikvLabel, annotations := podAnnotations, spec := podSpec }
          storageClassName := tc.spec.tikv.storageClassName
          storageRequest := storageRequest
          serviceName := headlessSvcName
          podManagementPolicy := "Parallel"
          partition := helpers.tikvStsDesiredReplicas tc }
      status := default }

/-- `getTikVConfigMap(tc)`: `none` when the cluster sets no TiKV config. -/
def getTikVConfigMap (helpers : Helpers) (tc : TikvCluster) : Except Error (Option ConfigMap) :=
  match tc.spec.tikv.config with
  | none => pure none
  | some config => do
    let confText ← helpers.marshalTOML config
    let startScript ← helpers.renderTiKVStartScript (helpers.scheme tc)
    let cm : ConfigMap :=
      { meta := { (default : ObjectMeta) with
          name := tikvMemberName tc.name
          ns := tc.ns
          labels := helpers.tikvLabels tc.instanceName
          ownerReferences := [helpers.getOwnerRef tc] }
        data := ((∅ : GoMap String).insert "config-file" confText).insert "startup-script"
          startScript }
    if tc.baseTiKVSpec.configUpdateStrategy = configUpdateStrategyRollingUpdate then
      let cm ← helpers.addConfigMapDigestSuffix cm
      pure (some cm)
    else pure (some cm)

/-- The ConfigMap to write: with `InPlace` updates and a StatefulSet that mounts one of the
cluster's ConfigMaps, the mounted one's name. -/
def configMapToWrite (helpers : Helpers) (tc : TikvCluster) (set : Option StatefulSet)
    (newCm : ConfigMap) : ConfigMap :=
  match set with
  | some set =>
    if tc.baseTiKVSpec.configUpdateStrategy = configUpdateStrategyInPlace then
      let inUseName := helpers.findConfigMapVolume set.spec.template.spec
        fun name => name.startsWith (tikvMemberName tc.name)
      if inUseName ≠ "" then { newCm with meta.name := inUseName } else newCm
    else newCm
  | none => newCm

/-- `syncTiKVConfigMap(tc, set)`. -/
def syncTiKVConfigMap (env : Env) (set : Option StatefulSet) : SyncM (Option ConfigMap) := do
  let tc ← getTc
  match tc.spec.tikv.config with
  | none => pure none
  | some _ =>
    match ← read (getTikVConfigMap env.helpers tc) with
    | none => pure none
    | some newCm =>
      let newCm := configMapToWrite env.helpers tc set newCm
      let cm ← emit (.createOrUpdateConfigMap newCm) (env.createOrUpdateConfigMap newCm)
      pure (some cm)

/-- `SetStatefulSetLastAppliedConfigAnnotation(set)`, which is not among the sources; modelled
from the spec: the JSON of the StatefulSet's spec is recorded under the last-applied annotation. -/
def setStatefulSetLastAppliedConfigAnnotation (helpers : Helpers) (set : StatefulSet) :
    StatefulSet :=
  let b := helpers.marshalStatefulSetSpec set.spec
  { set with meta.annotations := set.meta.annotations.insert helpers.lastAppliedConfigAnnotation b }

/-- `updateStatefulSet(setControl, tc, newSet, oldSet)`, which is not among the sources; modelled
from the spec: when the desired StatefulSet differs from the observed one, its spec is applied
onto the observed object, annotated with the last-applied configuration, and submitted. -/
def updateStatefulSet (env : Env) (newSet oldSet : StatefulSet) : SyncM Unit :=
  if env.helpers.statefulSetEqual newSet oldSet then pure ()
  else
    let set :=
      setStatefulSetLastAppliedConfigAnnotation env.helpers { oldSet with spec := newSet.spec }
    emit (.updateStatefulSet set) (env.updateStatefulSet set)

/-! ## The synthesis -/

section Synthesis

variable (helpers : Helpers) (tc : TikvCluster) (cm : Option ConfigMap)

/-- The synthesis fails exactly when the storage request does not parse, and then with the
message that names the request and the cluster. -/
theorem getNewTiKVSetForTikvCluster_error (e : Error) :
    getNewTiKVSetForTikvCluster helpers tc cm = .error e ↔
      ∃ err, helpers.parseStorageRequest tc.spec.tikv.resources.requests = .error err ∧
        e = storageRequestError tc err := by
  unfold getNewTiKVSetForTikvCluster
  cases helpers.parseStorageRequest tc.spec.tikv.resources.requests with
  | error err => simp [bind, Except.bind, throw, throwThe, MonadExceptOf.throw, eq_comm]
  | ok r => simp [bind, Except.bind, pure, Except.pure]

theorem getNewTiKVSetForTikvCluster_ok {r : ResourceRequirements}
    (h : helpers.parseStorageRequest tc.spec.tikv.resources.requests = .ok r) :
    ∃ set, getNewTiKVSetForTikvCluster helpers tc cm = .ok set ∧ set.spec.storageRequest = r ∧
      set.spec.template.spec.initContainers = sysctlInitContainers helpers tc ∧
      set.spec.template.spec.securityContext =
        tikvPodSecurityContext tc (sysctlInitContainers helpers tc) :=
  ⟨_, by simp [getNewTiKVSetForTikvCluster, h, bind, Except.bind, pure, Except.pure]; rfl,
    rfl, rfl, rfl⟩

/-- The init container is added exactly when the sysctl-init annotation carries its value and
the pod security context sets some sysctl. -/
theorem sysctlInitContainers_ne_nil_iff :
    sysctlInitContainers helpers tc ≠ [] ↔
      tc.baseTiKVSpec.annotations.lookup helpers.annSysctlInit = some helpers.annSysctlInitVal ∧
      ∃ psc, tc.baseTiKVSpec.podSecurityContext = some psc ∧ psc.sysctls ≠ [] := by
  unfold sysctlInitContainers
  dsimp only
  split
  · split_ifs
    · split
      · split_ifs <;> simp_all [List.length_pos]
      · simp_all
    · simp_all
  · simp_all

/-- The command `sh -c` runs: `sysctl -w`, then a blank and `name=value` per sysctl. -/
theorem sysctlCommand_data (sysctls : List Sysctl) (acc : String) :
    (sysctls.foldl (fun sysctls sysctl => sysctls ++ " " ++ sysctl.name ++ "=" ++ sysctl.value)
      acc).data =
      acc.data ++ (sysctls.map fun s => ' ' :: (s.name.data ++ '=' :: s.value.data)).flatten := by
  induction sysctls generalizing acc with
  | nil => simp
  | cons s sysctls ih => simp [ih, String.data_append]

theorem sysctlInitContainers_of_enabled {psc : PodSecurityContext}
    (hann : tc.baseTiKVSpec.annotations.lookup helpers.annSysctlInit =
      some helpers.annSysctlInitVal)
    (hpsc : tc.baseTiKVSpec.podSecurityContext = some psc) (hne : psc.sysctls ≠ []) :
    sysctlInitContainers helpers tc =
      [{ (default : Container) with
          name := "init"
          image := helpers.helperImage tc
          command := ["sh", "-c", psc.sysctls.foldl (fun sysctls sysctl =>
            sysctls ++ " " ++ sysctl.name ++ "=" ++ sysctl.value) "sysctl -w"]
          privileged := some true }] := by
  simp [sysctlInitContainers, hann, hpsc, List.length_pos.mpr hne]

/-- When every sysctl's name and value is made of characters the shell reads as themselves, the
shell reads the init container's command back as `sysctl`, `-w` and one `name=value` per sysctl,
in order. -/
theorem sysctlCommand_words (sysctls : List Sysctl)
    (hlit : ∀ s ∈ sysctls, ∀ c ∈ s.name.data ++ s.value.data, Shell.isLiteral c = true) :
    Shell.shellWords (sysctls.foldl
        (fun sysctls sysctl => sysctls ++ " " ++ sysctl.name ++ "=" ++ sysctl.value) "sysctl -w") =
      some (["sysctl", "-w"] ++ sysctls.map fun s => s.name ++ "=" ++ s.value) := by
  let ws := "-w".data :: sysctls.map fun s => s.name.data ++ '=' :: s.value.data
  have hcmd : sysctls.foldl (fun sysctls sysctl => sysctls ++ " " ++ sysctl.name ++ "=" ++
      sysctl.value) "sysctl -w" = String.mk ("sysctl".data ++ (ws.map (' ' :: ·)).flatten) := by
    rw [String.ext_iff, sysctlCommand_data]
    simp [ws]
    rfl
  have hws : ∀ w ∈ "sysctl".data :: ws, w ≠ [] ∧ ∀ c ∈ w, Shell.isLiteral c = true := by
    simp only [ws, List.mem_cons, List.mem_map]
    rintro w (rfl | rfl | ⟨s, hs, rfl⟩)
    · decide
    · decide
    · refine ⟨by simp, fun c hc => ?_⟩
      rcases List.mem_append.mp hc with hc | hc
      · exact hlit s hs c (List.mem_append_left _ hc)
      · rcases List.mem_cons.mp hc with rfl | hc
        · decide
        · exact hlit s hs c (List.mem_append_right _ hc)
  rw [hcmd, Shell.shellWords_literalWords _ _ hws]
  simp [ws, String.ext_iff, String.data_append]

/-- The sysctls of the synthesised pod, when the storage request parses. With the sysctl-init
annotation set to its enabling value and sysctls in the component's pod security context, all of
them literal shell words, the pod has one privileged init container whose `sh -c` command the
shell reads as `sysctl`, `-w` and one `name=value` per sysctl in order, and the pod's security
context is the component's without sysctls; otherwise the pod has no init container and the
component's security context. -/
theorem getNewTiKVSetForTikvCluster_sysctl_init {r : ResourceRequirements}
    (hparse : helpers.parseStorageRequest tc.spec.tikv.resources.requests = .ok r) :
    ∃ set, getNewTiKVSetForTikvCluster helpers tc cm = .ok set ∧
      (∀ psc, tc.baseTiKVSpec.annotations.lookup helpers.annSysctlInit =
          some helpers.annSysctlInitVal →
        tc.baseTiKVSpec.podSecurityContext = some psc → psc.sysctls ≠ [] →
        (∀ s ∈ psc.sysctls, ∀ c ∈ s.name.data ++ s.value.data, Shell.isLiteral c = true) →
        ∃ init cmd, set.spec.template.spec.initContainers = [init] ∧
          init.privileged = some true ∧ init.command = ["sh", "-c", cmd] ∧
          Shell.shellWords cmd =
            some (["sysctl", "-w"] ++ psc.sysctls.map fun s => s.name ++ "=" ++ s.value) ∧
          set.spec.template.spec.securityContext = some { psc with sysctls := [] }) ∧
      (¬ (tc.baseTiKVSpec.annotations.lookup helpers.annSysctlInit =
          some helpers.annSysctlInitVal ∧
        ∃ psc, tc.baseTiKVSpec.podSecurityContext = some psc ∧ psc.sysctls ≠ []) →
        set.spec.template.spec.initContainers = [] ∧
          set.spec.template.spec.securityContext = tc.baseTiKVSpec.podSecurityContext) := by
  obtain ⟨set, hset, -, hinit, hsc⟩ := getNewTiKVSetForTikvCluster_ok helpers tc cm hparse
  refine ⟨set, hset, fun psc hann hpsc hne hlit => ?_, fun hoff => ?_⟩
  · have hc := sysctlInitContainers_of_enabled helpers tc hann hpsc hne
    refine ⟨_, _, by rw [hinit, hc], rfl, rfl, sysctlCommand_words psc.sysctls hlit, ?_⟩
    rw [hsc, hc]
    simp [tikvPodSecurityContext, hpsc]
  · have h0 : sysctlInitContainers helpers tc = [] := by
      by_contra h
      exact hoff ((sysctlInitContainers_ne_nil_iff helpers tc).mp h)
    rw [hinit, hsc, h0]
    simp [tikvPodSecurityContext]

/-- The ConfigMap a StatefulSet's config and startup-script volumes project. -/
def MountsConfigMap (set : StatefulSet) (name : String) : Prop :=
  (⟨"config", .configMap name [("config-file", "tikv.toml")]⟩ : Volume) ∈
      set.spec.template.spec.volumes ∧
    (⟨"startup-script", .configMap name [("startup-script", "tikv_start_script.sh")]⟩ : Volume) ∈
      set.spec.template.spec.volumes

/-- The synthesised StatefulSet mounts the ConfigMap it is given, and the member ConfigMap name
when it is given none. -/
theorem getNewTiKVSetForTikvCluster_mounts {set : StatefulSet}
    (h : getNewTiKVSetForTikvCluster helpers tc cm = .ok set) :
    MountsConfigMap set ((cm.map (·.meta.name)).getD (helpers.memberConfigMapName tc)) := by
  cases hr : helpers.parseStorageRequest tc.spec.tikv.resources.requests with
  | error err =>
    have := (getNewTiKVSetForTikvCluster_error helpers tc cm _).mpr ⟨err, hr, rfl⟩
    rw [h] at this
    cases this
  | ok r =>
    simp [getNewTiKVSetForTikvCluster, hr, bind, Except.bind, pure, Except.pure] at h
    subst h
    cases cm <;> simp [MountsConfigMap]

end Synthesis

/-- A sysctl value holding a blank, as the port range of `net.ipv4.ip_local_port_range` does, is
cut in two by the shell: the init container runs `sysctl -w` with the words
`net.ipv4.ip_local_port_range=1024` and `65535`, setting the range to `1024` alone and naming
`65535` as a second sysctl. -/
theorem sysctl_value_with_blank_split :
    let helpers : Helpers := { (default : Helpers) with
      annSysctlInit := "tikv.org/sysctl-init", annSysctlInitVal := "true"
      parseStorageRequest := fun _ => .ok default }
    let tc : TikvCluster := { (default : TikvCluster) with
      spec.tikv.component.annotations := (∅ : GoMap String).insert "tikv.org/sysctl-init" "true"
      spec.tikv.component.podSecurityContext := some { (default : PodSecurityContext) with
        sysctls := [⟨"net.ipv4.ip_local_port_range", "1024 65535"⟩] } }
    (getNewTiKVSetForTikvCluster helpers tc none).toOption.map (fun set =>
      set.spec.template.spec.initContainers.map fun c =>
        (c.privileged, c.command.take 2, (c.command.drop 2).map Shell.shellWords)) =
      some [(some true, ["sh", "-c"],
        [some ["sysctl", "-w", "net.ipv4.ip_local_port_range=1024", "65535"]])] := by
  decide

/-- A literal sysctl, `net.core.somaxconn=32768`, is set as written. -/
theorem getNewTiKVSetForTikvCluster_sysctl_init_somaxconn :
    let helpers : Helpers := { (default : Helpers) with
      annSysctlInit := "tikv.org/sysctl-init", annSysctlInitVal := "true"
      parseStorageRequest := fun _ => .ok default }
    let tc : TikvCluster := { (default : TikvCluster) with
      spec.tikv.component.annotations := (∅ : GoMap String).insert "tikv.org/sysctl-init" "true"
      spec.tikv.component.podSecurityContext := some { (default : PodSecurityContext) with
        sysctls := [⟨"net.core.somaxconn", "32768"⟩] } }
    helpers.parseStorageRequest tc.spec.tikv.resources.requests = .ok default ∧
      ∃ set, getNewTiKVSetForTikvCluster helpers tc none = .ok set ∧
      (∀ psc, tc.baseTiKVSpec.annotations.lookup helpers.annSysctlInit =
          some helpers.annSysctlInitVal →
        tc.baseTiKVSpec.podSecurityContext = some psc → psc.sysctls ≠ [] →
        (∀ s ∈ psc.sysctls, ∀ c ∈ s.name.data ++ s.value.data, Shell.isLiteral c = true) →
        ∃ init cmd, set.spec.template.spec.initContainers = [init] ∧
          init.privileged = some true ∧ init.command = ["sh", "-c", cmd] ∧
          Shell.shellWords cmd =
            some (["sysctl", "-w"] ++ psc.sysctls.map fun s => s.name ++ "=" ++ s.value) ∧
          set.spec.template.spec.securityContext = some { psc with sysctls := [] }) ∧
      (¬ (tc.baseTiKVSpec.annotations.lookup helpers.annSysctlInit =
          some helpers.annSysctlInitVal ∧
        ∃ psc, tc.baseTiKVSpec.podSecurityContext = some psc ∧ psc.sysctls ≠ []) →
        set.spec.template.spec.initContainers = [] ∧
          set.spec.template.spec.securityContext = tc.baseTiKVSpec.podSecurityContext) := by
  intro helpers tc
  exact ⟨rfl, getNewTiKVSetForTikvCluster_sysctl_init helpers tc none rfl⟩

/-! ## The ConfigMap sync -/

/-- A ConfigMap upsert. -/
def Action.isConfigMapUpsert : Action → Bool
  | .createOrUpdateConfigMap _ => true
  | _ => false

/-- The ConfigMap sync changes only the log, where it appends one upsert when the cluster sets a
config and rendering succeeds, and nothing otherwise. -/
theorem syncTiKVConfigMap_writes (env : Env) (set : Option StatefulSet) (w : World) :
    ∃ acts, outcomeWorld (syncTiKVConfigMap env set w) = { w with log := w.log ++ acts } ∧
      acts.length ≤ 1 ∧ (∀ a ∈ acts, a.isConfigMapUpsert) ∧
      (w.tc.spec.tikv.config = none → acts = []) := by
  unfold syncTiKVConfigMap
  cases hc : w.tc.spec.tikv.config with
  | none => exact ⟨[], by simp [hc]⟩
  | some config =>
    cases hm : getTikVConfigMap env.helpers w.tc with
    | error e => exact ⟨[], by simp [hc, hm]⟩
    | ok newCm =>
      cases newCm with
      | none => exact ⟨[], by simp [hc, hm]⟩
      | some newCm =>
        refine ⟨[.createOrUpdateConfigMap (configMapToWrite env.helpers w.tc set newCm)], ?_,
          by simp, by simp [Action.isConfigMapUpsert], by simp⟩
        cases hr : env.createOrUpdateConfigMap (configMapToWrite env.helpers w.tc set newCm) <;>
          simp [hc, hm, emit_run, hr]

/-- Rendering a cluster's ConfigMap answers `none` only when the cluster sets no config. -/
theorem getTikVConfigMap_ok_none (helpers : Helpers) (tc : TikvCluster)
    (h : getTikVConfigMap helpers tc = .ok none) : tc.spec.tikv.config = none := by
  unfold getTikVConfigMap at h
  rcases hc : tc.spec.tikv.config with _ | config
  · rfl
  rw [hc] at h
  simp only [bind, Except.bind, pure, Except.pure] at h
  repeat' split at h
  all_goals cases h

/-- A successful ConfigMap sync: with no config it returns `none` and changes nothing; with one it
logs the upsert of the ConfigMap to write and returns what the upsert answered. -/
theorem syncTiKVConfigMap_ok (env : Env) (set : Option StatefulSet) {w w' : World}
    {cm : Option ConfigMap} (h : syncTiKVConfigMap env set w = .ok cm w') :
    (w.tc.spec.tikv.config = none ∧ cm = none ∧ w' = w) ∨
    ∃ newCm cm', getTikVConfigMap env.helpers w.tc = .ok (some newCm) ∧
      env.createOrUpdateConfigMap (configMapToWrite env.helpers w.tc set newCm) = .ok cm' ∧
      cm = some cm' ∧ w' = { w with log := w.log ++
        [.createOrUpdateConfigMap (configMapToWrite env.helpers w.tc set newCm)] } := by
  unfold syncTiKVConfigMap at h
  cases hc : w.tc.spec.tikv.config with
  | none =>
    simp [hc] at h
    exact .inl ⟨rfl, h.1.symm, h.2.symm⟩
  | some config =>
    cases hm : getTikVConfigMap env.helpers w.tc with
    | error e => simp [hc, hm] at h
    | ok newCm =>
      cases newCm with
      | none => exact absurd (getTikVConfigMap_ok_none _ _ hm) (by simp [hc])
      | some newCm =>
        cases hr : env.createOrUpdateConfigMap (configMapToWrite env.helpers w.tc set newCm) with
        | error e => simp [hc, hm, emit_run, hr] at h
        | ok cm' =>
          simp [hc, hm, emit_run, hr] at h
          exact .inr ⟨newCm, cm', rfl, hr, h.1.symm, h.2.symm⟩

/-- With `InPlace` updates, the ConfigMap to write takes the name of the cluster's ConfigMap the
observed StatefulSet mounts, when it mounts one. -/
theorem configMapToWrite_inPlace (helpers : Helpers) (tc : TikvCluster) (set : StatefulSet)
    (newCm : ConfigMap)
    (hs : tc.baseTiKVSpec.configUpdateStrategy = configUpdateStrategyInPlace)
    (hin : helpers.findConfigMapVolume set.spec.template.spec
      (fun name => name.startsWith (tikvMemberName tc.name)) ≠ "") :
    (configMapToWrite helpers tc (some set) newCm).meta.name =
      helpers.findConfigMapVolume set.spec.template.spec
        (fun name => name.startsWith (tikvMemberName tc.name)) := by
  simp [configMapToWrite, hs, hin]

end TikvOperator
