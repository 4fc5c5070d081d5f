import TikvOperator.StoreStatus

/-!
# Store label propagation

`setStoreLabelsForTiKV` pushes each owned store's node topology labels to the placement service.
For a store it resolves the pod, then the pod's node, restricts the node's labels to the
configured location labels (`getNodeLabels`, with the legacy `host` fallback), and requests
`SetStoreLabels` when the result is non-empty and differs from the labels the store carries
(`storeLabelsEqualNodeLabels`). A node that cannot be read, an empty label set and a failed
request skip that store; a pod that cannot be read ends the loop with an error.

## Main results

* `lookup_getNodeLabels`: the labels `getNodeLabels` returns, key by key.
* `storeLabelsEqualNodeLabels_iff`: the comparison holds exactly when every node label is the
  value of the store's last pair with that key.
* `setStoreLabel_ok`, `setStoreLabel_error`: one iteration either fails on the pod read or logs
  `labelUpdate`.
* `setStoreLabelsLoop_run`: the loop fails exactly when some kept entry's pod cannot be read, and
  logs the requests of the entries before the first such.
* `setStoreLabelsForTiKV_outcome`: the whole step, from the two placement-service reads.
* `setStoreLabelsForTiKV_requests_iff`: for a store whose pod and node resolve, listed after no
  store whose pod cannot be read, the step requests the node's location labels exactly when they
  are non-empty and some differs from the store's.
-/

namespace TikvOperator

open Regexp

/-- `corev1.LabelHostname`. -/
def labelHostname : String := "kubernetes.io/hostname"

/-- One iteration of the loop of `getNodeLabels` over the location labels. -/
def collectNodeLabel (ls labels : GoMap String) (storeLabel : String) : GoMap String :=
  match ls.lookup storeLabel with
  | some value => labels.insert storeLabel value
  | none =>
    -- TODO after pd supports storeLabel containing slash character, these codes should be deleted
    if storeLabel = "host" then
      match ls.lookup labelHostname with
      | some host => labels.insert storeLabel host
      | none => labels
    else labels

/-- `getNodeLabels(nodeName, storeLabels)`. -/
def getNodeLabels (env : Env) (nodeName : String) (storeLabels : List String) :
    Except Error (GoMap String) := do
  let node ← env.node nodeName
  pure (storeLabels.foldl (collectNodeLabel node.labels) ∅)

/-- `storeLabelsEqualNodeLabels(storeLabels, nodeLabels)`: the store's labels restricted to the
node labels' keys, the last pair of a key winning, compared with `reflect.DeepEqual`. -/
def storeLabelsEqualNodeLabels (storeLabels : List StoreLabel) (nodeLabels : GoMap String) :
    Bool :=
  let ls := storeLabels.foldl (fun ls label =>
    if label.key ∈ nodeLabels then ls.insert label.key label.value else ls) ∅
  GoMap.deepEqual ls nodeLabels

/-- One iteration of the store loop of `setStoreLabelsForTiKV`. -/
def setStoreLabel (env : Env) (pattern : List Item) (locationLabels : List String)
    (setCount : Int) (info : StoreInfo) : SyncM Int :=
  if !ownedStore pattern info then pure setCount
  else match getTiKVStore info, info.store with
  | some status, some store => do
    let pod ← read (env.pod status.podName)
    match getNodeLabels env pod.nodeName locationLabels with
    | .error _ => pure setCount
    | .ok ls =>
      if ls.entries.isEmpty then pure setCount
      else if storeLabelsEqualNodeLabels store.labels ls then pure setCount
      else do
        match ← emitTry (.setStoreLabels store.id ls) (env.setStoreLabels store.id ls) with
        | .error _ => pure setCount
        | .ok set => pure (if set then setCount + 1 else setCount)
  | _, _ => pure setCount

/-- The store loop of `setStoreLabelsForTiKV`. -/
def setStoreLabelsLoop (env : Env) (pattern : List Item) (locationLabels : List String) :
    Int → List StoreInfo → SyncM Int
  | setCount, [] => pure setCount
  | setCount, info :: infos => do
    let setCount ← setStoreLabel env pattern locationLabels setCount info
    setStoreLabelsLoop env pattern locationLabels setCount infos

/-- `setStoreLabelsForTiKV(tc)`: how many stores had their labels set. -/
def setStoreLabelsForTiKV (env : Env) : SyncM Int := do
  let tc ← getTc
  let storesInfo ← read env.stores
  let config ← read env.config
  match config.locationLabels with
  | none => pure 0
  | some locationLabels =>
    let pattern ← compileOwnerPattern tc
    setStoreLabelsLoop env pattern locationLabels 0 storesInfo

/-! ## The labels of a node -/

/-- The value a node's labels give a location label: its own, or for `host` the hostname. -/
def nodeLabelValue (ls : GoMap String) (k : String) : Option String :=
  (ls.lookup k).or (if k = "host" then ls.lookup labelHostname else none)

theorem collectNodeLabel_eq (ls labels : GoMap String) (storeLabel : String) :
    collectNodeLabel ls labels storeLabel = match nodeLabelValue ls storeLabel with
      | some v => labels.insert storeLabel v
      | none => labels := by
  unfold collectNodeLabel nodeLabelValue
  cases ls.lookup storeLabel <;> by_cases h : storeLabel = "host" <;> simp [h]

theorem lookup_foldl_collectNodeLabel (ls : GoMap String) (storeLabels : List String)
    (labels : GoMap String) (k : String) :
    (storeLabels.foldl (collectNodeLabel ls) labels).lookup k =
      if k ∈ storeLabels then (nodeLabelValue ls k).or (labels.lookup k) else labels.lookup k := by
  induction storeLabels generalizing labels with
  | nil => simp
  | cons s storeLabels ih =>
    rw [List.foldl_cons, ih, collectNodeLabel_eq]
    by_cases hk : s = k
    · subst hk
      cases hv : nodeLabelValue ls s <;> simp [hv, AList.lookup_insert]
    · have hk' : k ≠ s := Ne.symm hk
      cases nodeLabelValue ls s <;> simp [hk', AList.lookup_insert_ne hk']

/-- The labels `getNodeLabels` finds: for each location label, the node's value, or for `host`
the hostname label when the node has no `host` label. -/
theorem lookup_getNodeLabels {env : Env} {nodeName : String} {node : Node}
    (hnode : env.node nodeName = .ok node) (storeLabels : List String) :
    ∃ labels, getNodeLabels env nodeName storeLabels = .ok labels ∧
      ∀ k, labels.lookup k = if k ∈ storeLabels then nodeLabelValue node.labels k else none :=
  ⟨_, by simp [getNodeLabels, hnode]; rfl, by simp [lookup_foldl_collectNodeLabel]⟩

/-! ## Comparing a store's labels with a node's -/

/-- The value of the last pair of a key in a store's label list. -/
def lastLabelValue (storeLabels : List StoreLabel) (k : String) : Option String :=
  (storeLabels.reverse.find? (·.key == k)).map (·.value)

theorem lookup_foldl_storeLabels (nodeLabels : GoMap String) (storeLabels : List StoreLabel)
    (ls : GoMap String) (k : String) :
    (storeLabels.foldl (fun ls label =>
        if label.key ∈ nodeLabels then ls.insert label.key label.value else ls) ls).lookup k =
      if k ∈ nodeLabels then (lastLabelValue storeLabels k).or (ls.lookup k) else ls.lookup k := by
  induction storeLabels generalizing ls with
  | nil => simp [lastLabelValue]
  | cons l storeLabels ih =>
    rw [List.foldl_cons, ih]
    by_cases hk : l.key = k
    · subst hk
      by_cases hm : l.key ∈ nodeLabels <;>
        simp [hm, lastLabelValue, List.find?_append, AList.lookup_insert]
      cases List.find? (fun x => x.key == l.key) storeLabels.reverse <;> simp
    · by_cases hm : l.key ∈ nodeLabels <;>
        simp [hm, hk, lastLabelValue, List.find?_append, AList.lookup_insert_ne (Ne.symm hk)]

/-- The comparison holds exactly when every node label is the value of the store's last pair
with that key. -/
theorem storeLabelsEqualNodeLabels_iff (storeLabels : List StoreLabel) (nodeLabels : GoMap String) :
    storeLabelsEqualNodeLabels storeLabels nodeLabels = true ↔
      ∀ k v, nodeLabels.lookup k = some v → lastLabelValue storeLabels k = some v := by
  simp only [storeLabelsEqualNodeLabels, GoMap.deepEqual_iff, lookup_foldl_storeLabels,
    AList.lookup_empty, Option.or_none]
  constructor
  · intro h k v hv
    have hk : k ∈ nodeLabels := AList.lookup_isSome.mp (by simp [hv])
    simpa [hk, hv] using h k
  · intro h k
    by_cases hk : k ∈ nodeLabels
    · obtain ⟨v, hv⟩ := Option.isSome_iff_exists.mp (AList.lookup_isSome.mpr hk)
      simp [hk, hv, h k v hv]
    · simp [hk, AList.lookup_eq_none.mpr hk]

/-! ## One iteration and the loop -/

/-- Whether the loop stops at an entry: it is kept, and its pod cannot be read. -/
def podFails (env : Env) (pattern : List Item) (info : StoreInfo) : Bool :=
  match keptRecord pattern info with
  | some status => !(env.pod status.podName).isOk
  | none => false

/-- The request the loop makes for an entry whose pod can be read: `SetStoreLabels` with the
node's location labels, when the node can be read, they are non-empty and the store's differ. -/
def labelUpdate (env : Env) (pattern : List Item) (locationLabels : List String)
    (info : StoreInfo) : List Action :=
  match keptRecord pattern info, info.store with
  | some status, some store =>
    match env.pod status.podName with
    | .error _ => []
    | .ok pod =>
      match getNodeLabels env pod.nodeName locationLabels with
      | .error _ => []
      | .ok ls =>
        if ls.entries.isEmpty || storeLabelsEqualNodeLabels store.labels ls then []
        else [.setStoreLabels store.id ls]
  | _, _ => []

/-- The requests of the entries before the first whose pod cannot be read. -/
def labelUpdates (env : Env) (pattern : List Item) (locationLabels : List String)
    (infos : List StoreInfo) : List Action :=
  ((infos.takeWhile fun info => !podFails env pattern info).map
    (labelUpdate env pattern locationLabels)).flatten

theorem getTiKVStore_store {info : StoreInfo} {status : TiKVStore}
    (h : getTiKVStore info = some status) : ∃ store, info.store = some store := by
  unfold getTiKVStore at h
  split at h
  · exact ⟨_, ‹_›⟩
  · cases h

section Step

variable (env : Env) (pattern : List Item) (locationLabels : List String) (setCount : Int)
  (info : StoreInfo) (w : World)

theorem setStoreLabel_ok (h : podFails env pattern info = false) :
    ∃ c, setStoreLabel env pattern locationLabels setCount info w =
      .ok c { w with log := w.log ++ labelUpdate env pattern locationLabels info } := by
  unfold podFails keptRecord at h
  unfold setStoreLabel labelUpdate keptRecord
  cases ho : ownedStore pattern info
  · exact ⟨setCount, by simp [ho]⟩
  cases hg : getTiKVStore info with
  | none => exact ⟨setCount, by simp [hg]⟩
  | some status =>
    obtain ⟨store, hs⟩ := getTiKVStore_store hg
    obtain ⟨pod, hp⟩ := exists_ok_of_isOk
      (by simpa only [ho, hg, ↓reduceIte, Bool.not_eq_false'] using h)
    simp only [ho, hg, hs, hp, Bool.not_true, Bool.false_eq_true, ↓reduceIte, bind_run,
      read_ok_run, List.isEmpty_iff]
    cases getNodeLabels env pod.nodeName locationLabels with
    | error => exact ⟨setCount, by simp⟩
    | ok ls =>
      by_cases he : ls.entries = []
      · exact ⟨setCount, by simp [he]⟩
      by_cases heq : storeLabelsEqualNodeLabels store.labels ls
      · exact ⟨setCount, by simp [he, heq]⟩
      cases hset : env.setStoreLabels store.id ls
      · exact ⟨setCount, by simp [he, heq, hset]⟩
      · exact ⟨_, by simp [he, heq, hset]; rfl⟩

theorem setStoreLabel_error (h : podFails env pattern info = true) :
    ∃ e, setStoreLabel env pattern locationLabels setCount info w = .error e w := by
  unfold podFails keptRecord at h
  unfold setStoreLabel
  cases ho : ownedStore pattern info <;> simp only [ho, ↓reduceIte] at h
  · cases h
  cases hg : getTiKVStore info with
  | none => simp [hg] at h
  | some status =>
    obtain ⟨store, hs⟩ := getTiKVStore_store hg
    cases hp : env.pod status.podName with
    | error e => exact ⟨e, by simp [ho, hg, hs, hp]⟩
    | ok pod => simp [hg, hp, Except.isOk, Except.toBool] at h

end Step

/-- The loop fails exactly when some kept entry's pod cannot be read; it logs the requests of the
entries before the first such, and changes nothing else. -/
theorem setStoreLabelsLoop_run (env : Env) (pattern : List Item) (locationLabels : List String)
    (infos : List StoreInfo) (setCount : Int) (w : World) :
    isError (setStoreLabelsLoop env pattern locationLabels setCount infos w) =
        infos.any (podFails env pattern) ∧
      outcomeWorld (setStoreLabelsLoop env pattern locationLabels setCount infos w) =
        { w with log := w.log ++ labelUpdates env pattern locationLabels infos } := by
  induction infos generalizing setCount w with
  | nil => simp [setStoreLabelsLoop, labelUpdates]
  | cons info infos ih =>
    cases hf : podFails env pattern info
    · obtain ⟨c, hc⟩ := setStoreLabel_ok env pattern locationLabels setCount info w hf
      simp [setStoreLabelsLoop, labelUpdates, hc, hf, ih]
    · obtain ⟨e, he⟩ := setStoreLabel_error env pattern locationLabels setCount info w hf
      simp [setStoreLabelsLoop, labelUpdates, he, hf]

/-! ## The decision for one store -/

theorem labelUpdate_of_node {env : Env} {pattern : List Item} {locationLabels : List String}
    {info : StoreInfo} {status : TiKVStore} {store : Store} {pod : Pod} {ls : GoMap String}
    (hkept : keptRecord pattern info = some status) (hstore : info.store = some store)
    (hpod : env.pod status.podName = .ok pod)
    (hls : getNodeLabels env pod.nodeName locationLabels = .ok ls) :
    labelUpdate env pattern locationLabels info =
      if ls.entries.isEmpty || storeLabelsEqualNodeLabels store.labels ls then []
      else [.setStoreLabels store.id ls] := by
  simp only [labelUpdate, hkept, hstore, hpod, hls]

/-- The loop's test in words: a request is made exactly when the node's labels are non-empty and
some key's last pair in the store's labels does not carry the node's value. -/
theorem labelsDiffer_iff (storeLabels : List StoreLabel) (ls : GoMap String) :
    (ls.entries.isEmpty || storeLabelsEqualNodeLabels storeLabels ls) = false ↔
      ls.entries ≠ [] ∧ ∃ k v, ls.lookup k = some v ∧ lastLabelValue storeLabels k ≠ some v := by
  rw [Bool.or_eq_false_iff, Bool.eq_false_iff, Bool.eq_false_iff, ne_eq, ne_eq,
    storeLabelsEqualNodeLabels_iff, List.isEmpty_iff]
  push_neg
  rfl

/-- The decision for an owned store whose pod and node resolve: the node's location labels, and
a request with them exactly when they are non-empty and some key's last pair in the store's
labels does not carry the node's value; no request otherwise. -/
theorem labelUpdate_requests_iff {env : Env} {pattern : List Item} (locationLabels : List String)
    {info : StoreInfo} {status : TiKVStore} {store : Store} {pod : Pod} {node : Node}
    (hkept : keptRecord pattern info = some status) (hstore : info.store = some store)
    (hpod : env.pod status.podName = .ok pod) (hnode : env.node pod.nodeName = .ok node) :
    ∃ ls, getNodeLabels env pod.nodeName locationLabels = .ok ls ∧
      (∀ k, ls.lookup k = if k ∈ locationLabels then nodeLabelValue node.labels k else none) ∧
      (labelUpdate env pattern locationLabels info = [.setStoreLabels store.id ls] ↔
        ls.entries ≠ [] ∧ ∃ k v, ls.lookup k = some v ∧ lastLabelValue store.labels k ≠ some v) ∧
      (labelUpdate env pattern locationLabels info = [] ∨
        labelUpdate env pattern locationLabels info = [.setStoreLabels store.id ls]) := by
  obtain ⟨ls, hls, hlookup⟩ := lookup_getNodeLabels hnode locationLabels
  refine ⟨ls, hls, hlookup, ?_⟩
  rw [labelUpdate_of_node hkept hstore hpod hls, ← labelsDiffer_iff]
  cases ls.entries.isEmpty || storeLabelsEqualNodeLabels store.labels ls <;> simp

/-- What the labels step decides from the two placement-service reads: whether it fails, and the
requests it logs. -/
def storeLabelsPlan (env : Env) (tc : TikvCluster) : Bool × List Action :=
  match env.stores, env.config with
  | .ok infos, .ok config =>
    match config.locationLabels with
    | none => (false, [])
    | some locationLabels =>
      (infos.any (podFails env (ownerItems tc.name tc.ns)),
        labelUpdates env (ownerItems tc.name tc.ns) locationLabels infos)
  | _, _ => (true, [])

/-- The whole step: its outcome is decided by `storeLabelsPlan`, and it only appends requests. -/
theorem setStoreLabelsForTiKV_outcome (env : Env) (w : World) :
    isError (setStoreLabelsForTiKV env w) = (storeLabelsPlan env w.tc).1 ∧
      outcomeWorld (setStoreLabelsForTiKV env w) =
        { w with log := w.log ++ (storeLabelsPlan env w.tc).2 } := by
  unfold setStoreLabelsForTiKV storeLabelsPlan
  cases env.stores <;> cases env.config <;> simp
  split <;> simp [*, compileOwnerPattern_eq, setStoreLabelsLoop_run]

/-! ## The decision for one store within the step -/

section Prefix

variable {env : Env} {pattern : List Item} {locationLabels : List String}

/-- The stores listed before the first unresolvable pod are all reached. -/
theorem labelUpdates_append_of_pass {before : List StoreInfo} (rest : List StoreInfo)
    (h : ∀ b ∈ before, podFails env pattern b = false) :
    labelUpdates env pattern locationLabels (before ++ rest) =
      labelUpdates env pattern locationLabels before ++
        labelUpdates env pattern locationLabels rest := by
  have hpass : ∀ b ∈ before, (!podFails env pattern b) = true := fun b hb => by simp [h b hb]
  simp [labelUpdates, List.takeWhile_append_of_pos hpass,
    List.takeWhile_eq_self_iff.mpr hpass]

/-- Once a store listed in `before` stops the loop, nothing listed after `before` is reached. -/
theorem labelUpdates_append_of_fails {before : List StoreInfo} (rest : List StoreInfo)
    (h : ∃ b ∈ before, podFails env pattern b = true) :
    labelUpdates env pattern locationLabels (before ++ rest) =
      labelUpdates env pattern locationLabels before := by
  have hlen : (before.takeWhile fun b => !podFails env pattern b).length ≠ before.length := by
    obtain ⟨b, hb, hf⟩ := h
    intro hlen
    have := List.takeWhile_eq_self_iff.mp ((List.takeWhile_prefix _).eq_of_length hlen) b hb
    simp [hf] at this
  rw [labelUpdates, List.takeWhile_append, if_neg hlen, labelUpdates]

theorem labelUpdates_cons_of_pass {info : StoreInfo} (rest : List StoreInfo)
    (h : podFails env pattern info = false) :
    labelUpdates env pattern locationLabels (info :: rest) =
      labelUpdate env pattern locationLabels info ++
        labelUpdates env pattern locationLabels rest := by
  simp [labelUpdates, h]

end Prefix

/-- The decision for one store within the whole step. With `GetStores` listing `before`, then the
store, then `after`, and location labels configured, the store's node labels are those
`getNodeLabels` resolves. While no store listed before it names a pod the lister cannot return,
the step logs the requests of the stores before it, then the store's own request, made exactly
when the labels are non-empty and some key's last pair in the store's labels does not carry the
node's value (so none once every key's last pair carries it), then those of the stores after it.
Once a store before it names such a pod, the step logs only the requests of the stores before it. -/
theorem setStoreLabelsForTiKV_requests_iff (env : Env) (w : World) {config : PDConfig}
    {locationLabels : List String} {before after : List StoreInfo} {info : StoreInfo}
    {status : TiKVStore} {store : Store} {pod : Pod} {node : Node}
    (hstores : env.stores = .ok (before ++ info :: after)) (hconfig : env.config = .ok config)
    (hlabels : config.locationLabels = some locationLabels)
    (hkept : keptRecord (ownerItems w.tc.name w.tc.ns) info = some status)
    (hstore : info.store = some store) (hpod : env.pod status.podName = .ok pod)
    (hnode : env.node pod.nodeName = .ok node) :
    let pattern := ownerItems w.tc.name w.tc.ns
    let log := (outcomeWorld (setStoreLabelsForTiKV env w)).log
    ∃ ls, getNodeLabels env pod.nodeName locationLabels = .ok ls ∧
      (∀ k, ls.lookup k = if k ∈ locationLabels then nodeLabelValue node.labels k else none) ∧
      ((∀ b ∈ before, podFails env pattern b = false) →
        ∃ request, log = w.log ++ labelUpdates env pattern locationLabels before ++ request ++
            labelUpdates env pattern locationLabels after ∧
          (request = [.setStoreLabels store.id ls] ↔ ls.entries ≠ [] ∧
            ∃ k v, ls.lookup k = some v ∧ lastLabelValue store.labels k ≠ some v) ∧
          (request = [] ∨ request = [.setStoreLabels store.id ls]) ∧
          ((∀ k v, ls.lookup k = some v → lastLabelValue store.labels k = some v) →
            request = [])) ∧
      ((∃ b ∈ before, podFails env pattern b = true) →
        log = w.log ++ labelUpdates env pattern locationLabels before) := by
  intro pattern log
  obtain ⟨ls, hls, hlookup, hiff, hone⟩ :=
    labelUpdate_requests_iff locationLabels hkept hstore hpod hnode
  have hlog : log = w.log ++ labelUpdates env pattern locationLabels (before ++ info :: after) := by
    simp only [log, (setStoreLabelsForTiKV_outcome env w).2, storeLabelsPlan, hstores, hconfig,
      hlabels]
  have hf : podFails env pattern info = false := by
    simp [podFails, hkept, hpod, Except.isOk, Except.toBool]
  refine ⟨ls, hls, hlookup, fun hbefore => ⟨_, ?_, hiff, hone, fun hall => ?_⟩, fun hfail => ?_⟩
  · rw [hlog, labelUpdates_append_of_pass _ hbefore, labelUpdates_cons_of_pass _ hf]
    simp only [List.append_assoc]
  · refine hone.resolve_right fun h => ?_
    obtain ⟨-, k, v, hk, hne⟩ := hiff.mp h
    exact hne (hall k v hk)
  · rw [hlog, labelUpdates_append_of_fails _ hfail]

/-- Two stores whose pods and nodes resolve: the decision for the second, whose `zone` label
differs from its node's. -/
theorem setStoreLabelsForTiKV_requests_second_store :
    let info (id : Nat) (ordinal : String) : StoreInfo :=
      ⟨some ⟨id, "basic-tikv-" ++ ordinal ++ ".basic-tikv-peer.default.svc:20160", "Up",
        [⟨"zone", "a"⟩]⟩, some ⟨0, 0⟩⟩
    let store : Store :=
      ⟨2, "basic-tikv-1.basic-tikv-peer.default.svc:20160", "Up", [⟨"zone", "a"⟩]⟩
    let status : TiKVStore :=
      ⟨"2", "basic-tikv-1", "basic-tikv-1.basic-tikv-peer.default.svc", 0, "Up", 0, 0⟩
    let node : Node := ⟨(∅ : GoMap String).insert "zone" "b"⟩
    let config : PDConfig := ⟨some ["zone"]⟩
    let env : Env := { (default : Env) with
      stores := .ok [info 1 "0", info 2 "1"], config := .ok config
      pod := fun _ => .ok default, node := fun _ => .ok node }
    let w : World := { (default : World) with tc := { (default : TikvCluster) with
      name := "basic", ns := "default", name_valid := by decide, ns_valid := by decide } }
    let pattern := ownerItems w.tc.name w.tc.ns
    let log := (outcomeWorld (setStoreLabelsForTiKV env w)).log
    env.stores = .ok ([info 1 "0"] ++ info 2 "1" :: []) ∧ env.config = .ok config ∧
      config.locationLabels = some ["zone"] ∧ keptRecord pattern (info 2 "1") = some status ∧
      (info 2 "1").store = some store ∧ env.pod status.podName = .ok default ∧
      env.node (default : Pod).nodeName = .ok node ∧
      ∃ ls, getNodeLabels env (default : Pod).nodeName ["zone"] = .ok ls ∧
        (∀ k, ls.lookup k = if k ∈ ["zone"] then nodeLabelValue node.labels k else none) ∧
        ((∀ b ∈ [info 1 "0"], podFails env pattern b = false) →
          ∃ request, log = w.log ++ labelUpdates env pattern ["zone"] [info 1 "0"] ++ request ++
              labelUpdates env pattern ["zone"] [] ∧
            (request = [.setStoreLabels store.id ls] ↔ ls.entries ≠ [] ∧
              ∃ k v, ls.lookup k = some v ∧ lastLabelValue store.labels k ≠ some v) ∧
            (request = [] ∨ request = [.setStoreLabels store.id ls]) ∧
            ((∀ k v, ls.lookup k = some v → lastLabelValue store.labels k = some v) →
              request = [])) ∧
        ((∃ b ∈ [info 1 "0"], podFails env pattern b = true) →
          log = w.log ++ labelUpdates env pattern ["zone"] [info 1 "0"]) := by
  intro info store status node config env w pattern log
  have hkept : keptRecord pattern (info 2 "1") = some status := by decide
  exact ⟨rfl, rfl, rfl, hkept, rfl, rfl, rfl,
    setStoreLabelsForTiKV_requests_iff env w rfl rfl rfl hkept rfl rfl rfl⟩

/-- A store listed after a store whose pod is not found: it is owned, its pod and node resolve
and its `zone` label differs from its node's, so its own iteration requests the node's label; the
step stops at the first store and requests nothing. -/
theorem setStoreLabelsForTiKV_skips_store_after_pod_failure :
    let info (id : Nat) (ordinal : String) : StoreInfo :=
      ⟨some ⟨id, "basic-tikv-" ++ ordinal ++ ".basic-tikv-peer.default.svc:20160", "Up",
        [⟨"zone", "a"⟩]⟩, some ⟨0, 0⟩⟩
    let node : Node := ⟨(∅ : GoMap String).insert "zone" "b"⟩
    let env : Env := { (default : Env) with
      stores := .ok [info 1 "0", info 2 "1"], config := .ok ⟨some ["zone"]⟩
      pod := fun name => if name = "basic-tikv-0" then .error (.notFound name) else .ok default
      node := fun _ => .ok node }
    let w : World := { (default : World) with tc := { (default : TikvCluster) with
      name := "basic", ns := "default", name_valid := by decide, ns_valid := by decide } }
    (keptRecord (ownerItems "basic" "default") (info 2 "1")).map (·.podName) =
        some "basic-tikv-1" ∧
      (env.pod "basic-tikv-1").isOk ∧ (env.node (default : Pod).nodeName).isOk ∧
      lastLabelValue [⟨"zone", "a"⟩] "zone" ≠ some "b" ∧
      (outcomeWorld (setStoreLabel env (ownerItems "basic" "default") ["zone"] 0 (info 2 "1")
          w)).log.filterMap (fun
          | .setStoreLabels id ls => some (id, ls.keys, ls.lookup "zone")
          | _ => none) = [(2, ["zone"], some "b")] ∧
      (outcomeWorld (setStoreLabelsForTiKV env w)).log.length = 0 := by
  decide

/-! ## The actions of the step -/

/-- A `SetStoreLabels` request. -/
def Action.isSetStoreLabels : Action → Bool
  | .setStoreLabels _ _ => true
  | _ => false

theorem isSetStoreLabels_of_mem_labelUpdate {env : Env} {pattern : List Item}
    {locationLabels : List String} {info : StoreInfo} {a : Action}
    (h : a ∈ labelUpdate env pattern locationLabels info) : a.isSetStoreLabels := by
  unfold labelUpdate at h
  split at h
  · split at h
    · cases h
    · split at h
      · cases h
      · split_ifs at h
        · cases h
        · simp only [List.mem_singleton] at h
          subst h
          rfl
  · cases h

theorem setStoreLabelsForTiKV_confined (env : Env) :
    Confined (·.isSetStoreLabels) (setStoreLabelsForTiKV env) := by
  intro w
  rw [(setStoreLabelsForTiKV_outcome env w).2]
  refine ⟨rfl, _, rfl, fun a ha => ?_⟩
  unfold storeLabelsPlan at ha
  split at ha
  · split at ha
    · cases ha
    · obtain ⟨l, hl, ha⟩ := List.mem_flatten.mp ha
      obtain ⟨info, -, rfl⟩ := List.mem_map.mp hl
      exact isSetStoreLabels_of_mem_labelUpdate ha
  · cases ha

end TikvOperator
