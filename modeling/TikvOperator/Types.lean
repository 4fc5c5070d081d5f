import TikvOperator.Basic

/-!
# Data model

The objects the TiKV member manager reads and writes: the placement service's store records,
the `TikvCluster` resource with its spec and status, and the platform objects it owns (Services,
the StatefulSet and its pod template, the ConfigMap). Each structure keeps the fields the
modelled functions read or set; a pointer the code tests for nil is an `Option`.

## Main definitions

* `StoreInfo`, `TiKVStore`: a store as the placement service lists it, and as the status records it.
* `TikvCluster`: the cluster resource. Its name and namespace carry the API server's validation
  (lowercase letters, digits, `-` and `.`), so a cluster the code can be given is the only kind
  that can be built.
* `Service`, `StatefulSet`, `ConfigMap`, `Pod`, `Node`: the platform objects.
-/

namespace TikvOperator

/-! ## The placement service -/

/-- `metapb.StoreLabel`. -/
structure StoreLabel where
  key : String
  value : String
deriving DecidableEq, Repr, Inhabited

/-- `metapb.Store`: the fields the member manager reads. -/
structure Store where
  id : Nat
  address : String
  stateName : String
  labels : List StoreLabel
deriving DecidableEq, Repr, Inhabited

/-- `pdapi.StoreStatus`: the fields the member manager reads. -/
structure StoreStatus where
  leaderCount : Int
  lastHeartbeatTS : Nat
deriving DecidableEq, Repr, Inhabited

/-- `pdapi.StoreInfo`; either pointer may be nil. -/
structure StoreInfo where
  store : Option Store
  status : Option StoreStatus
deriving DecidableEq, Repr, Inhabited

/-- `pdapi.PDConfig`: the replication location labels, `none` being a nil slice. -/
structure PDConfig where
  locationLabels : Option (List String)
deriving DecidableEq, Repr, Inhabited

/-! ## Platform objects -/

/-- `metav1.OwnerReference`: the owner's kind, name and uid. -/
structure OwnerReference where
  kind : String
  name : String
  uid : String
deriving DecidableEq, Repr, Inhabited

/-- `metav1.ObjectMeta`; `ns` is the namespace. `uid` and `resourceVersion` are assigned by the
API server. -/
structure ObjectMeta where
  name : String
  ns : String
  labels : GoMap String
  annotations : GoMap String
  ownerReferences : List OwnerReference
  uid : String
  resourceVersion : String
deriving Inhabited

/-- `corev1.ServicePort`; ports are `int32`, the target port an `intstr` built from an int. -/
structure ServicePort where
  name : String
  port : Int
  nodePort : Int
  targetPort : Int
  protocol : String
deriving DecidableEq, Repr, Inhabited

/-- `corev1.ServiceSpec`. -/
structure ServiceSpec where
  type : String
  clusterIP : String
  selector : GoMap String
  ports : List ServicePort
  externalIPs : List String
  publishNotReadyAddresses : Bool
deriving Inhabited

/-- `corev1.Service`. -/
structure Service where
  meta : ObjectMeta
  spec : ServiceSpec
deriving Inhabited

/-- `corev1.Pod`: its metadata, `Spec.NodeName` and `Status.HostIP`. -/
structure Pod where
  meta : ObjectMeta
  nodeName : String
  hostIP : String
deriving Inhabited

/-- `corev1.Node`: its labels. -/
structure Node where
  labels : GoMap String
deriving Inhabited

/-- `corev1.Sysctl`. -/
structure Sysctl where
  name : String
  value : String
deriving DecidableEq, Repr, Inhabited

/-- `corev1.PodSecurityContext`. -/
structure PodSecurityContext where
  runAsUser : Option Int
  runAsGroup : Option Int
  runAsNonRoot : Option Bool
  fsGroup : Option Int
  sysctls : List Sysctl
deriving DecidableEq, Repr, Inhabited

/-- `corev1.Toleration`. -/
structure Toleration where
  key : String
  operator : String
  value : String
  effect : String
deriving DecidableEq, Repr, Inhabited

/-- `corev1.Affinity`: the three kinds of rules, which the member manager passes on unread. -/
structure Affinity where
  nodeAffinity : List String
  podAffinity : List String
  podAntiAffinity : List String
deriving DecidableEq, Repr, Inhabited

/-- `corev1.EnvVar`: a value, or a reference to a field of the pod. -/
structure EnvVar where
  name : String
  value : String
  fieldPath : Option String
deriving DecidableEq, Repr, Inhabited

/-- `corev1.VolumeMount`. -/
structure VolumeMount where
  name : String
  readOnly : Bool
  mountPath : String
deriving DecidableEq, Repr, Inhabited

/-- The source of a `corev1.Volume`. -/
inductive VolumeSource where
  /-- A ConfigMap projected as `(key, path)` items. -/
  | configMap (name : String) (items : List (String × String))
  | secret (secretName : String)
  /-- Any other source, such as the downward-API annotations volume. -/
  | other (kind : String)
deriving DecidableEq, Repr, Inhabited

/-- `corev1.Volume`. -/
structure Volume where
  name : String
  source : VolumeSource
deriving DecidableEq, Repr, Inhabited

/-- `corev1.ResourceList`: quantities as the spec writes them. -/
structure ResourceList where
  cpu : String
  memory : String
  storage : String
deriving DecidableEq, Repr, Inhabited

/-- `corev1.ResourceRequirements`. -/
structure ResourceRequirements where
  requests : ResourceList
  limits : ResourceList
deriving DecidableEq, Repr, Inhabited

/-- `corev1.Container`. `privileged` is `SecurityContext.Privileged`. -/
structure Container where
  name : String
  image : String
  imagePullPolicy : String
  command : List String
  privileged : Option Bool
  ports : List (String × Int)
  volumeMounts : List VolumeMount
  resources : ResourceRequirements
  env : List EnvVar
deriving DecidableEq, Repr, Inhabited

/-- `corev1.PodSpec`. -/
structure PodSpec where
  schedulerName : String
  affinity : Option Affinity
  nodeSelector : GoMap String
  hostNetwork : Bool
  restartPolicy : String
  tolerations : List Toleration
  securityContext : Option PodSecurityContext
  priorityClassName : String
  dnsPolicy : String
  volumes : List Volume
  initContainers : List Container
  containers : List Container
  serviceAccountName : String
deriving Inhabited

/-- `corev1.PodTemplateSpec`. -/
structure PodTemplateSpec where
  labels : GoMap String
  annotations : GoMap String
  spec : PodSpec
deriving Inhabited

/-- `apps.StatefulSetSpec`. `storageRequest` is the one volume claim template's resources. -/
structure StatefulSetSpec where
  replicas : Int
  selector : GoMap String
  template : PodTemplateSpec
  storageClassName : Option String
  storageRequest : ResourceRequirements
  serviceName : String
  podManagementPolicy : String
  partition : Int
deriving Inhabited

/-- `apps.StatefulSetStatus`. -/
structure StatefulSetStatus where
  observedGeneration : Int
  replicas : Int
  currentRevision : String
  updateRevision : String
deriving DecidableEq, Repr, Inhabited

/-- `apps.StatefulSet`. -/
structure StatefulSet where
  meta : ObjectMeta
  spec : StatefulSetSpec
  status : StatefulSetStatus
deriving Inhabited

/-- `corev1.ConfigMap`. -/
structure ConfigMap where
  meta : ObjectMeta
  data : GoMap String
deriving Inhabited

/-! ## The cluster resource -/

/-- `v1alpha1.TiKVStore`, the status record of one store. -/
structure TiKVStore where
  id : String
  podName : String
  ip : String
  leaderCount : Int
  state : String
  lastHeartbeatTime : Nat
  lastTransitionTime : Nat
deriving DecidableEq, Repr, Inhabited

/-- `v1alpha1.TiKVFailureStore`. The member manager reads none of its fields, only how many
failure stores the status records. -/
structure TiKVFailureStore where
deriving DecidableEq, Repr, Inhabited

/-- `v1alpha1.ComponentSpec`: component-level overrides of the cluster-level settings. -/
structure ComponentSpec where
  imagePullPolicy : Option String
  hostNetwork : Option Bool
  affinity : Option Affinity
  priorityClassName : Option String
  schedulerName : Option String
  nodeSelector : GoMap String
  annotations : GoMap String
  tolerations : List Toleration
  podSecurityContext : Option PodSecurityContext
  configUpdateStrategy : Option String
  env : List EnvVar
deriving Inhabited

/-- `v1alpha1.ExternalListenerConfig`; `accessMethod` is what `GetAccessMethod()` returns. -/
structure ExternalListenerConfig where
  name : String
  externalStartingPort : Int
  containerPort : Int
  accessMethod : String
deriving DecidableEq, Repr, Inhabited

/-- `v1alpha1.TiKVConfig`, as the settings `MarshalTOML` renders. -/
structure TiKVConfig where
  settings : List (String × String)
deriving DecidableEq, Repr, Inhabited

/-- `v1alpha1.TiKVSpec`. -/
structure TiKVSpec where
  component : ComponentSpec
  config : Option TiKVConfig
  resources : ResourceRequirements
  storageClassName : Option String
  serviceAccount : String
  maxFailoverCount : Option Int
  externalListeners : Option (List ExternalListenerConfig)
deriving Inhabited

/-- `v1alpha1.TikvClusterSpec`: the cluster-level settings. -/
structure TikvClusterSpec where
  tikv : TiKVSpec
  paused : Bool
  timezone : String
  imagePullPolicy : String
  hostNetwork : Option Bool
  affinity : Option Affinity
  priorityClassName : Option String
  schedulerName : String
  nodeSelector : GoMap String
  annotations : GoMap String
  tolerations : List Toleration
  configUpdateStrategy : String
deriving Inhabited

/-- `v1alpha1.TiKVStatus`. `phase` is a `MemberPhase` string, empty until first set. -/
structure TiKVStatus where
  synced : Bool
  phase : String
  statefulSet : Option StatefulSetStatus
  stores : GoMap TiKVStore
  tombstoneStores : GoMap TiKVStore
  failureStores : GoMap TiKVFailureStore
  image : String
deriving Inhabited

/-- `v1alpha1.TikvClusterStatus`: the PD phase and the TiKV status. -/
structure TikvClusterStatus where
  pdPhase : String
  tikv : TiKVStatus
deriving Inhabited

/-- `v1alpha1.NormalPhase` and `v1alpha1.UpgradePhase`. -/
def normalPhase : String := "Normal"
def upgradePhase : String := "Upgrade"

/-- A character the API server admits in an object name (DNS-1123). -/
def dnsChar (c : Char) : Bool := c.isLower || c.isDigit || c == '-' || c == '.'

/-- `v1alpha1.TikvCluster`. `instanceName` is what `GetInstanceName()` returns. -/
structure TikvCluster where
  name : String
  ns : String
  uid : String
  instanceName : String
  spec : TikvClusterSpec
  status : TikvClusterStatus
  name_valid : ∀ c ∈ name.data, dnsChar c = true
  ns_valid : ∀ c ∈ ns.data, dnsChar c = true

instance : Inhabited TikvCluster :=
  ⟨{ name := "", ns := "", uid := "", instanceName := "", spec := default, status := default,
     name_valid := nofun, ns_valid := nofun }⟩

/-- `controller.TiKVMemberName` and `controller.TiKVPeerMemberName`. -/
def tikvMemberName (tcName : String) : String := tcName ++ "-tikv"
def tikvPeerMemberName (tcName : String) : String := tcName ++ "-tikv-peer"

end TikvOperator
