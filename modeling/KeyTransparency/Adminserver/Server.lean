import KeyTransparency.Proto

/-! `adminserver.Server`: each handler calls the domain store and Trillian in the source's order,
returns at the first error and keeps what its earlier calls wrote. Handlers run one at a time:
concurrent `CreateDomain` calls race on the shared `logArgs.Tree.Description`, a string Go's
memory model gives no guarantee for under a race. -/
namespace KeyTransparency.Adminserver

/-- `domain.Domain`: what the domain store keeps of a domain; the intervals are `time.Duration`
nanoseconds, the private key the wrapped key `keygen` returned. -/
structure Storage.Domain where
  domainID : String
  mapID : Int64
  logID : Int64
  vrf : Option PublicKey
  vrfPriv : Bytes
  minInterval : Int64
  maxInterval : Int64
  deleted : Bool
  deriving DecidableEq, Repr

/-- `domain.Storage` over a store state `σ`: `Write` and `SetDelete` return the state they leave. -/
structure Storage (σ : Type) where
  list : σ → Bool → Except Error (List Storage.Domain)
  write : σ → Storage.Domain → Except Error σ
  read : σ → String → Bool → Except Error Storage.Domain
  setDelete : σ → String → Bool → Except Error σ

/-- A `TrillianAdminClient` over the Trillian state `τ`; `CreateTree`'s key specification is
left out. -/
structure AdminClient (τ : Type) where
  getTree : τ → Int64 → Except Error Tree
  createTree : τ → Tree → Except Error (τ × Tree)

/-- `lclient.LogClient`: a client of one log, with its hasher's strategy and the log's key. -/
structure LogClient where
  logID : Int64
  hashStrategy : HashStrategy
  publicKey : Bytes
  deriving DecidableEq, Repr

/-- A `TrillianLogClient`, with the blocking `AddLeaf` of a log client built on it. -/
structure TrillianLog (τ : Type) where
  getLatestSignedLogRoot : τ → Int64 → Except Error (Option SignedLogRoot)
  addLeaf : τ → LogClient → Bytes → Except Error τ

/-- A `TrillianMapClient`: the map root of `GetSignedMapRoot`'s response, nil included. -/
structure TrillianMap (τ : Type) where
  getSignedMapRoot : τ → Int64 → Except Error (Option SignedMapRoot)

/-- `adminserver.Server` over a store state `σ` and a Trillian state `τ`. -/
structure Server (σ τ : Type) where
  tlog : TrillianLog τ
  tmap : TrillianMap τ
  logAdmin : AdminClient τ
  mapAdmin : AdminClient τ
  domains : Storage σ
  /-- `keygen(ctx, vrfKeySpec)`: a wrapped VRF private key. -/
  keygen : τ → Except Error (τ × Bytes)

/-- The package functions the handlers call, each under its Go name. -/
structure Lib where
  newFromWrappedKey : Bytes → Except Error Bytes
  toPublicProto : Bytes → Except Error PublicKey
  /-- `ptypes.Duration`; a nil duration is an error. -/
  duration : Option Duration → Except Error Int64
  durationProto : Int64 → Duration
  canonicalSignedMapRoot : Option SignedMapRoot → Except Error Bytes
  /-- `hashers.NewLogHasher`: whether the strategy names a log hasher. -/
  newLogHasher : HashStrategy → Except Error Unit
  unmarshalPublicKey : Bytes → Except Error Unit

/-- `logArgs.Tree` as the package declares it. -/
def logArgsTree : Tree :=
  { treeId := 0, treeType := .log, hashStrategy := .objectRfc6962Sha256, displayName := "KT SMH Log"
    description := "", publicKey := none }

def mapArgsTree : Tree :=
  { treeId := 0, treeType := .map, hashStrategy := .coniksSha512_256, displayName := "KT Map"
    description := "", publicKey := none }

/-- `fmt.Sprintf("KT domain %s's SMH Log", domainID)`. -/
def logDescription (domainID : String) : String := "KT domain " ++ domainID ++ "\x27s SMH Log"

/-- `fmt.Sprintf("KT domain %s's Map", domainID)`. -/
def mapDescription (domainID : String) : String := "KT domain " ++ domainID ++ "\x27s Map"

/-- What the handlers read and write: the trees of the package-level `logArgs` and `mapArgs`,
which `CreateDomain` writes through its shallow copies, the domain store, and Trillian. -/
structure World (σ τ : Type) where
  logArgs : Tree
  mapArgs : Tree
  domains : σ
  trillian : τ

/-- A handler's computation: it reads and writes the world and may fail, keeping what it wrote. -/
abbrev Handler (σ τ α : Type) := ExceptT Error (StateM (World σ τ)) α

namespace Handler

variable {σ τ α β : Type}

def ofFun (f : World σ τ → World σ τ × Except Error α) : Handler σ τ α :=
  ExceptT.mk fun w => ((f w).2, (f w).1)

/-- Run a handler: the world it leaves, and its result. -/
def exec (h : Handler σ τ α) (w : World σ τ) : World σ τ × Except Error α :=
  ((h.run.run w).2, (h.run.run w).1)

@[simp] theorem exec_ofFun (f : World σ τ → World σ τ × Except Error α) (w : World σ τ) :
    (ofFun f).exec w = f w := rfl

@[simp] theorem exec_pure (a : α) (w : World σ τ) : (pure a : Handler σ τ α).exec w = (w, .ok a) := rfl

theorem exec_bind (x : Handler σ τ α) (f : α → Handler σ τ β) (w : World σ τ) :
    (x >>= f).exec w = match x.exec w with
      | (w, .ok a) => (f a).exec w
      | (w, .error e) => (w, .error e) := by
  simp only [exec, ExceptT.run_bind, StateT.run_bind]
  rcases x.run.run w with ⟨_ | a, w'⟩ <;> rfl

end Handler

structure CreateDomainRequest where
  domainId : String
  minInterval : Option Duration
  maxInterval : Option Duration
  deriving DecidableEq, Repr

/-- Which of `CreateDomain`'s trees: the log, from `logArgs`, or the map, from `mapArgs`. -/
inductive Kind where
  | log
  | map
  deriving DecidableEq, Repr

namespace Kind

variable {σ τ : Type}

def args : Kind → World σ τ → Tree
  | .log, w => w.logArgs
  | .map, w => w.mapArgs

/-- Write that tree, as the shallow copy's `Tree.Description = ...` does. -/
def setArgs : Kind → World σ τ → Tree → World σ τ
  | .log, w, t => { w with logArgs := t }
  | .map, w, t => { w with mapArgs := t }

def description : Kind → String → String
  | .log => logDescription
  | .map => mapDescription

def admin (s : Server σ τ) : Kind → AdminClient τ
  | .log => s.logAdmin
  | .map => s.mapAdmin

/-- The prefix of the error `CreateTree` is wrapped in. -/
def context : Kind → String
  | .log => "CreateTree(log)"
  | .map => "CreateTree(map)"

@[simp] theorem args_setArgs (k : Kind) (w : World σ τ) (t : Tree) : k.args (k.setArgs w t) = t := by
  cases k <;> rfl

@[simp] theorem setArgs_domains (k : Kind) (w : World σ τ) (t : Tree) :
    (k.setArgs w t).domains = w.domains := by
  cases k <;> rfl

@[simp] theorem setArgs_trillian (k : Kind) (w : World σ τ) (t : Tree) :
    (k.setArgs w t).trillian = w.trillian := by
  cases k <;> rfl

end Kind

namespace Server

variable {σ τ : Type} (s : Server σ τ) (lib : Lib)

def new (tlog : TrillianLog τ) (tmap : TrillianMap τ) (logAdmin mapAdmin : AdminClient τ)
    (domains : Storage σ) (keygen : τ → Except Error (τ × Bytes)) : Server σ τ :=
  { tlog, tmap, logAdmin, mapAdmin, domains, keygen }

/-- `fetchDomain`: the stored domain with its two trees, read from the admin servers. -/
def fetchDomain (t : τ) (d : Storage.Domain) : Except Error Domain := do
  let logTree ← s.logAdmin.getTree t d.logID
  let mapTree ← s.mapAdmin.getTree t d.mapID
  return { domainId := d.domainID, log := some logTree, map := some mapTree, vrf := d.vrf
           minInterval := some (lib.durationProto d.minInterval)
           maxInterval := some (lib.durationProto d.maxInterval), deleted := d.deleted }

/-- `ListDomains`: every stored domain, fetched in the store's order. -/
def listDomains (w : World σ τ) (showDeleted : Bool) : Except Error (List Domain) := do
  let domains ← s.domains.list w.domains showDeleted
  domains.foldlM (fun resp d => do return resp ++ [← s.fetchDomain lib w.trillian d]) []

def getDomain (w : World σ τ) (domainId : String) (showDeleted : Bool) : Except Error Domain := do
  let domain ← s.domains.read w.domains domainId showDeleted
  s.fetchDomain lib w.trillian domain

/-- `newLogClient`: a client of the tree's log, with the tree's hasher and public key. -/
def newLogClient (config : Tree) : Except Error LogClient := do
  (lib.newLogHasher config.hashStrategy).mapError (.wrap "Failed creating LogHasher")
  let der := (config.publicKey.map (·.der)).getD []
  (lib.unmarshalPublicKey der).mapError (.wrap "Failed parsing Log public key")
  return { logID := config.treeId, hashStrategy := config.hashStrategy, publicKey := der }

/-- `initialize`: when the log is empty and the map at revision 0, add the map's root to the
log, so the log's leaves start in step with the map. -/
def initLog (t : τ) (logTree mapTree : Tree) : Except Error τ := do
  let logID := logTree.treeId
  let mapID := mapTree.treeId
  let logClient ← (newLogClient lib logTree).mapError (.wrap "could not create log client")
  let logRoot ← (s.tlog.getLatestSignedLogRoot t logID).mapError (.wrap "GetLatestSignedLogRoot")
  let mapRoot ← (s.tmap.getSignedMapRoot t mapID).mapError (.wrap "GetSignedMapRoot")
  if (logRoot.map (·.treeSize)).getD 0 = 0 ∧ (mapRoot.map (·.mapRevision)).getD 0 = 0 then
    let smrData ← lib.canonicalSignedMapRoot mapRoot
    s.tlog.addLeaf t logClient smrData
  else
    return t

/-- `CreateDomain`'s key generation: the wrapped VRF key and its public key. -/
def createKeys : Handler σ τ (Bytes × PublicKey) :=
  .ofFun fun w =>
    match s.keygen w.trillian with
    | .error e => (w, .error (.wrap "keygen" e))
    | .ok (t, wrapped) =>
      ({ w with trillian := t }, do
        let vrfPriv ← (lib.newFromWrappedKey wrapped).mapError (.wrap "NewFromWrappedKey()")
        let vrfPublicPB ← lib.toPublicProto vrfPriv
        return (wrapped, vrfPublicPB))

/-- `treeArgs.Tree.Description = ...` on the shallow copy `treeArgs := *args`: the write lands
in the package-level tree every call shares. -/
def nameTree (k : Kind) (domainId : String) : Handler σ τ Unit :=
  .ofFun fun w => (k.setArgs w { k.args w with description := k.description domainId }, .ok ())

/-- `CreateTree(ctx, &treeArgs)`: ask for a tree like the shared one as it stands. -/
def createTree (k : Kind) : Handler σ τ Tree :=
  .ofFun fun w =>
    match (k.admin s).createTree w.trillian (k.args w) with
    | .error e => (w, .error (.wrap k.context e))
    | .ok (t, tree) => ({ w with trillian := t }, .ok tree)

/-- `CreateDomain`'s intervals and log initialization. -/
def prepare (r : CreateDomainRequest) (logTree mapTree : Tree) : Handler σ τ (Int64 × Int64) :=
  .ofFun fun w =>
    match (do
        let minInterval ← (lib.duration r.minInterval).mapError (.wrap "Duration")
        let maxInterval ← (lib.duration r.maxInterval).mapError (.wrap "Duration")
        return (minInterval, maxInterval) : Except Error (Int64 × Int64)) with
    | .error e => (w, .error e)
    | .ok intervals =>
      match s.initLog lib w.trillian logTree mapTree with
      | .error e => (w, .error (.wrap "initialize of log" e))
      | .ok t => ({ w with trillian := t }, .ok intervals)

def record (r : CreateDomainRequest) (wrapped : Bytes) (vrf : PublicKey) (logTree mapTree : Tree)
    (minInterval maxInterval : Int64) : Storage.Domain :=
  { domainID := r.domainId, mapID := mapTree.treeId, logID := logTree.treeId, vrf := some vrf
    vrfPriv := wrapped, minInterval, maxInterval, deleted := false }

/-- `CreateDomain`'s `domains.Write`, and the domain it returns. -/
def writeDomain (r : CreateDomainRequest) (wrapped : Bytes) (vrf : PublicKey) (logTree mapTree : Tree)
    (minInterval maxInterval : Int64) : Handler σ τ Domain :=
  .ofFun fun w =>
    match s.domains.write w.domains (record r wrapped vrf logTree mapTree minInterval maxInterval) with
    | .error e => (w, .error (.wrap "adminstorage.Write()" e))
    | .ok d => ({ w with domains := d }, .ok
        { domainId := r.domainId, log := some logTree, map := some mapTree, vrf := some vrf
          minInterval := none, maxInterval := none, deleted := false })

def createDomain (r : CreateDomainRequest) : Handler σ τ Domain := do
  let (wrapped, vrfPublicPB) ← s.createKeys lib
  nameTree .log r.domainId
  let logTree ← s.createTree .log
  nameTree .map r.domainId
  let mapTree ← s.createTree .map
  let (minInterval, maxInterval) ← s.prepare lib r logTree mapTree
  s.writeDomain r wrapped vrfPublicPB logTree mapTree minInterval maxInterval


/-! ### What each step of `CreateDomain` does -/

section Spec

open Handler

def KeepsDomains {α : Type} (h : Handler σ τ α) : Prop := ∀ w, (h.exec w).1.domains = w.domains

/-- When the handler fails, it leaves the domain store as it was. -/
def FailureKeepsDomains {α : Type} (h : Handler σ τ α) : Prop :=
  ∀ w e, (h.exec w).2 = .error e → (h.exec w).1.domains = w.domains

theorem failureKeepsDomains_bind {α β : Type} {x : Handler σ τ α} {f : α → Handler σ τ β}
    (hx : KeepsDomains x) (hf : ∀ a, FailureKeepsDomains (f a)) : FailureKeepsDomains (x >>= f) := by
  intro w e h
  rw [exec_bind] at h ⊢
  rcases hxw : x.exec w with ⟨w', _ | a⟩ <;> simp only [hxw] at h ⊢
  · rw [← hx w, hxw]
  · rw [hf a w' e h, ← hx w, hxw]

theorem createKeys_keepsDomains : KeepsDomains (s.createKeys lib) := by
  intro w
  simp only [createKeys, exec_ofFun]
  split <;> rfl

theorem nameTree_keepsDomains (k : Kind) (domainId : String) :
    KeepsDomains (nameTree k domainId : Handler σ τ Unit) :=
  fun w => k.setArgs_domains w _

theorem createTree_keepsDomains (k : Kind) : KeepsDomains (s.createTree k) := by
  intro w
  simp only [createTree, exec_ofFun]
  split <;> rfl

theorem prepare_keepsDomains (r : CreateDomainRequest) (logTree mapTree : Tree) :
    KeepsDomains (s.prepare lib r logTree mapTree) := by
  intro w
  simp only [prepare, exec_ofFun]
  split
  · rfl
  · split <;> rfl

theorem writeDomain_failureKeepsDomains (r : CreateDomainRequest) (wrapped : Bytes) (vrf : PublicKey)
    (logTree mapTree : Tree) (minI maxI : Int64) :
    FailureKeepsDomains (s.writeDomain r wrapped vrf logTree mapTree minI maxI) := by
  intro w e h
  simp only [writeDomain, exec_ofFun] at h ⊢
  cases hw : s.domains.write w.domains (record r wrapped vrf logTree mapTree minI maxI) with
  | error => rfl
  | ok => simp only [hw, reduceCtorEq] at h

theorem createDomain_failureKeepsDomains (r : CreateDomainRequest) :
    FailureKeepsDomains (s.createDomain lib r) :=
  failureKeepsDomains_bind (s.createKeys_keepsDomains lib) fun _ =>
    failureKeepsDomains_bind (nameTree_keepsDomains .log _) fun _ =>
    failureKeepsDomains_bind (s.createTree_keepsDomains .log) fun _ =>
    failureKeepsDomains_bind (nameTree_keepsDomains .map _) fun _ =>
    failureKeepsDomains_bind (s.createTree_keepsDomains .map) fun _ =>
    failureKeepsDomains_bind (s.prepare_keepsDomains lib _ _ _) fun _ =>
    s.writeDomain_failureKeepsDomains _ _ _ _ _ _ _

/-- `initialize` reads the new log's root and the map's root, and adds the map's canonical root
to the log exactly when the log is empty and the map at revision 0. -/
theorem initLog_eq_ok {t t' : τ} {logTree mapTree : Tree}
    (h : s.initLog lib t logTree mapTree = .ok t') :
    ∃ logClient logRoot mapRoot, newLogClient lib logTree = .ok logClient ∧
      s.tlog.getLatestSignedLogRoot t logTree.treeId = .ok logRoot ∧
      s.tmap.getSignedMapRoot t mapTree.treeId = .ok mapRoot ∧
      if (logRoot.map (·.treeSize)).getD 0 = 0 ∧ (mapRoot.map (·.mapRevision)).getD 0 = 0 then
        ∃ smrData, lib.canonicalSignedMapRoot mapRoot = .ok smrData ∧
          s.tlog.addLeaf t logClient smrData = .ok t'
      else t' = t := by
  obtain ⟨lc, hlc, h⟩ := Except.bind_eq_ok.mp h
  obtain ⟨lr, hlr, h⟩ := Except.bind_eq_ok.mp h
  obtain ⟨mr, hmr, h⟩ := Except.bind_eq_ok.mp h
  refine ⟨lc, lr, mr, Except.mapError_eq_ok.mp hlc, Except.mapError_eq_ok.mp hlr,
    Except.mapError_eq_ok.mp hmr, ?_⟩
  split_ifs at h ⊢
  · obtain ⟨smr, hsmr, h⟩ := Except.bind_eq_ok.mp h
    exact ⟨smr, hsmr, h⟩
  · exact (Except.ok.inj h).symm

theorem createKeys_eq_ok {w w' : World σ τ} {wrapped : Bytes} {vrf : PublicKey}
    (h : (s.createKeys lib).exec w = (w', .ok (wrapped, vrf))) :
    ∃ t priv, s.keygen w.trillian = .ok (t, wrapped) ∧ lib.newFromWrappedKey wrapped = .ok priv ∧
      lib.toPublicProto priv = .ok vrf ∧ w' = { w with trillian := t } := by
  simp only [createKeys, exec_ofFun] at h
  split at h
  · cases h
  · rename_i t wr hk
    simp only [Prod.mk.injEq] at h
    obtain ⟨rfl, h⟩ := h
    obtain ⟨priv, hp, h⟩ := Except.bind_eq_ok.mp h
    obtain ⟨v, hv, h⟩ := Except.bind_eq_ok.mp h
    cases h
    exact ⟨t, priv, hk, Except.mapError_eq_ok.mp hp, hv, rfl⟩

theorem createTree_eq_ok {k : Kind} {w w' : World σ τ} {tree : Tree}
    (h : (s.createTree k).exec w = (w', .ok tree)) :
    ∃ t, (k.admin s).createTree w.trillian (k.args w) = .ok (t, tree) ∧ w' = { w with trillian := t } := by
  simp only [createTree, exec_ofFun] at h
  split at h
  · cases h
  · cases h
    exact ⟨_, ‹_›, rfl⟩

theorem prepare_eq_ok {r : CreateDomainRequest} {logTree mapTree : Tree} {w w' : World σ τ}
    {minI maxI : Int64} (h : (s.prepare lib r logTree mapTree).exec w = (w', .ok (minI, maxI))) :
    ∃ t, lib.duration r.minInterval = .ok minI ∧ lib.duration r.maxInterval = .ok maxI ∧
      s.initLog lib w.trillian logTree mapTree = .ok t ∧ w' = { w with trillian := t } := by
  simp only [prepare, exec_ofFun] at h
  split at h
  · cases h
  · rename_i intervals hi
    split at h
    · cases h
    · cases h
      obtain ⟨a, ha, hi⟩ := Except.bind_eq_ok.mp hi
      obtain ⟨b, hb, hi⟩ := Except.bind_eq_ok.mp hi
      cases hi
      exact ⟨_, Except.mapError_eq_ok.mp ha, Except.mapError_eq_ok.mp hb, ‹_›, rfl⟩

theorem writeDomain_eq_ok {r : CreateDomainRequest} {wrapped : Bytes} {vrf : PublicKey}
    {logTree mapTree : Tree} {minI maxI : Int64} {w w' : World σ τ} {d : Domain}
    (h : (s.writeDomain r wrapped vrf logTree mapTree minI maxI).exec w = (w', .ok d)) :
    ∃ st, s.domains.write w.domains (record r wrapped vrf logTree mapTree minI maxI) = .ok st ∧
      w' = { w with domains := st } ∧
      d = { domainId := r.domainId, log := some logTree, map := some mapTree, vrf := some vrf
            minInterval := none, maxInterval := none, deleted := false } := by
  simp only [writeDomain, exec_ofFun] at h
  split at h
  · cases h
  · cases h
    exact ⟨_, ‹_›, rfl, rfl⟩

/-- A `CreateDomain` that returns a domain made every call in the source's order and each
succeeded: the key, the log tree from the template named after the domain, then the map tree,
the intervals, the log's initialization and the store's write. -/
theorem createDomain_eq_ok {r : CreateDomainRequest} {w : World σ τ} {d : Domain}
    (h : ((s.createDomain lib r).exec w).2 = .ok d) :
    ∃ t₁ wrapped priv vrf t₂ logTree t₃ mapTree minI maxI t₄ st,
      s.keygen w.trillian = .ok (t₁, wrapped) ∧ lib.newFromWrappedKey wrapped = .ok priv ∧
      lib.toPublicProto priv = .ok vrf ∧
      s.logAdmin.createTree t₁ { w.logArgs with description := logDescription r.domainId } =
        .ok (t₂, logTree) ∧
      s.mapAdmin.createTree t₂ { w.mapArgs with description := mapDescription r.domainId } =
        .ok (t₃, mapTree) ∧
      lib.duration r.minInterval = .ok minI ∧ lib.duration r.maxInterval = .ok maxI ∧
      s.initLog lib t₃ logTree mapTree = .ok t₄ ∧
      s.domains.write w.domains (record r wrapped vrf logTree mapTree minI maxI) = .ok st ∧
      (s.createDomain lib r).exec w =
        (⟨{ w.logArgs with description := logDescription r.domainId },
          { w.mapArgs with description := mapDescription r.domainId }, st, t₄⟩,
         .ok { domainId := r.domainId, log := some logTree, map := some mapTree, vrf := some vrf
               minInterval := none, maxInterval := none, deleted := false }) := by
  simp only [createDomain, exec_bind, nameTree, exec_ofFun] at h ⊢
  rcases hk : (s.createKeys lib).exec w with ⟨w₁, _ | ⟨wrapped, vrf⟩⟩ <;> simp only [hk, reduceCtorEq] at h ⊢
  obtain ⟨t₁, priv, hkg, hp, hv, rfl⟩ := s.createKeys_eq_ok lib hk
  rcases hl : (s.createTree .log).exec _ with ⟨w₂, _ | logTree⟩ <;> simp only [hl, reduceCtorEq] at h ⊢
  obtain ⟨t₂, hlt, rfl⟩ := s.createTree_eq_ok hl
  rcases hm : (s.createTree .map).exec _ with ⟨w₃, _ | mapTree⟩ <;> simp only [hm, reduceCtorEq] at h ⊢
  obtain ⟨t₃, hmt, rfl⟩ := s.createTree_eq_ok hm
  rcases hpr : (s.prepare lib r logTree mapTree).exec _ with ⟨w₄, _ | ⟨minI, maxI⟩⟩ <;>
    simp only [hpr, reduceCtorEq] at h ⊢
  obtain ⟨t₄, hmin, hmax, hi, rfl⟩ := s.prepare_eq_ok lib hpr
  rcases hw : (s.writeDomain r wrapped vrf logTree mapTree minI maxI).exec _ with ⟨w₅, _ | d'⟩ <;>
    simp only [hw, reduceCtorEq] at h ⊢
  obtain ⟨st, hst, rfl, rfl⟩ := s.writeDomain_eq_ok hw
  exact ⟨t₁, wrapped, priv, vrf, t₂, logTree, t₃, mapTree, minI, maxI, t₄, st, hkg, hp, hv, hlt, hmt,
    hmin, hmax, hi, hst, rfl⟩


/-- A `CreateDomain` that fails leaves the domain store as it was. One that returns a domain
stored one record, after every other call succeeded: the request's domain, not deleted, naming
the log and map trees it returned and the VRF key it returned, with the private key that key is
the public half of and the request's intervals; before that, it initialized the new log against
the map. -/
theorem createDomain_store (r : CreateDomainRequest) (w : World σ τ) :
    ((∃ e, ((s.createDomain lib r).exec w).2 = .error e) ∧
      ((s.createDomain lib r).exec w).1.domains = w.domains) ∨
    ∃ wrapped priv vrf logTree mapTree minI maxI t,
      ((s.createDomain lib r).exec w).2 = .ok
        { domainId := r.domainId, log := some logTree, map := some mapTree, vrf := some vrf
          minInterval := none, maxInterval := none, deleted := false } ∧
      lib.newFromWrappedKey wrapped = .ok priv ∧ lib.toPublicProto priv = .ok vrf ∧
      lib.duration r.minInterval = .ok minI ∧ lib.duration r.maxInterval = .ok maxI ∧
      s.initLog lib t logTree mapTree = .ok ((s.createDomain lib r).exec w).1.trillian ∧
      s.domains.write w.domains (record r wrapped vrf logTree mapTree minI maxI) =
        .ok ((s.createDomain lib r).exec w).1.domains := by
  rcases h : ((s.createDomain lib r).exec w).2 with e | d
  · exact .inl ⟨⟨e, rfl⟩, s.createDomain_failureKeepsDomains lib r w e h⟩
  · obtain ⟨-, wrapped, priv, vrf, -, logTree, t, mapTree, minI, maxI, t₄, st, -, hp, hv, -, -, hmin, hmax,
      hi, hw, he⟩ := s.createDomain_eq_ok lib h
    rw [he] at h ⊢
    cases h
    exact .inr ⟨wrapped, priv, vrf, logTree, mapTree, minI, maxI, t, rfl, hp, hv, hmin, hmax, hi, hw⟩

theorem foldlM_append_eq_mapM {α β : Type} (f : α → Except Error β) (ds : List α) (acc : List β) :
    ds.foldlM (fun resp d => do return resp ++ [← f d]) acc = (ds.mapM f).map (acc ++ ·) := by
  induction ds generalizing acc with
  | nil => exact congrArg Except.ok acc.append_nil.symm
  | cons d ds ih =>
    simp only [List.foldlM_cons, List.mapM_cons]
    cases f d with
    | error e => rfl
    | ok x =>
      show ds.foldlM _ (acc ++ [x]) = _
      rw [ih]
      cases ds.mapM f <;> simp [Except.map, bind, Except.bind, pure, Except.pure]

theorem mem_of_mapM_eq_ok {α β : Type} {f : α → Except Error β} :
    ∀ {l : List α} {l' : List β}, l.mapM f = .ok l' → ∀ y ∈ l', ∃ x ∈ l, f x = .ok y
  | [], _, h, _, hy => by
    cases h
    cases hy
  | x :: l, _, h, y, hy => by
    rw [List.mapM_cons] at h
    obtain ⟨b, hb, h⟩ := Except.bind_eq_ok.mp h
    obtain ⟨bs, hbs, h⟩ := Except.bind_eq_ok.mp h
    cases h
    rcases List.mem_cons.mp hy with rfl | hy
    · exact ⟨x, List.mem_cons_self _ _, hb⟩
    · obtain ⟨x', hx', he⟩ := mem_of_mapM_eq_ok hbs y hy
      exact ⟨x', List.mem_cons_of_mem _ hx', he⟩

/-- `ListDomains` is the store's listing, each record fetched in turn, failing with the first
fetch's error. -/
theorem listDomains_eq (w : World σ τ) (showDeleted : Bool) :
    s.listDomains lib w showDeleted =
      (s.domains.list w.domains showDeleted).bind (List.mapM (s.fetchDomain lib w.trillian)) := by
  simp only [listDomains, foldlM_append_eq_mapM]
  cases s.domains.list w.domains showDeleted with
  | error => rfl
  | ok recs =>
    show Except.map ([] ++ ·) (recs.mapM (s.fetchDomain lib w.trillian)) = recs.mapM _
    cases recs.mapM (s.fetchDomain lib w.trillian) <;> rfl

theorem fetchDomain_domainId {t : τ} {rec : Storage.Domain} {d : Domain} (h : s.fetchDomain lib t rec = .ok d) :
    d.domainId = rec.domainID := by
  obtain ⟨_, -, h⟩ := Except.bind_eq_ok.mp h
  obtain ⟨_, -, h⟩ := Except.bind_eq_ok.mp h
  cases h
  rfl

/-- Every domain `ListDomains` returns is what `GetDomain` returns for its id, for a store that
reads back each record of its listing under the record's id. -/
theorem listDomains_getDomain (w : World σ τ) (showDeleted : Bool) {ds : List Domain}
    (h : s.listDomains lib w showDeleted = .ok ds)
    (hlist : ∀ recs, s.domains.list w.domains showDeleted = .ok recs →
      ∀ rec ∈ recs, s.domains.read w.domains rec.domainID showDeleted = .ok rec) :
    s.listDomains lib w showDeleted =
        (s.domains.list w.domains showDeleted).bind (List.mapM (s.fetchDomain lib w.trillian)) ∧
      ∀ d ∈ ds, s.getDomain lib w d.domainId showDeleted = .ok d := by
  refine ⟨listDomains_eq s lib w showDeleted, ?_⟩
  rw [listDomains_eq] at h
  obtain ⟨recs, hrecs, h⟩ := Except.bind_eq_ok.mp h
  intro d hd
  obtain ⟨rec, hrec, hf⟩ := mem_of_mapM_eq_ok h d hd
  simp only [getDomain, fetchDomain_domainId s lib hf, hlist recs hrecs rec hrec]
  exact hf

end Spec

end Server

/-! ### An executable backend -/

/-- The world a server starts in: the templates as the package declares them. -/
def World.init {σ τ : Type} (domains : σ) (trillian : τ) : World σ τ :=
  ⟨logArgsTree, mapArgsTree, domains, trillian⟩

/-- An in-memory domain store: `Write` and `SetDelete` replace the record of the same id. -/
def Storage.memory : Storage (List Storage.Domain) where
  list ds showDeleted := .ok (ds.filter fun d => showDeleted || !d.deleted)
  write ds d := .ok (d :: ds.filter (·.domainID ≠ d.domainID))
  read ds domainID showDeleted :=
    match ds.find? (·.domainID = domainID) with
    | some d => if showDeleted || !d.deleted then .ok d else .error (.external "domain deleted")
    | none => .error (.external "domain not found")
  setDelete ds domainID isDeleted :=
    match ds.find? (·.domainID = domainID) with
    | some d => .ok ({ d with deleted := isDeleted } :: ds.filter (·.domainID ≠ domainID))
    | none => .error (.external "domain not found")

theorem Storage.memory_read_write (ds : List Storage.Domain) (rec : Storage.Domain) (ds' : List Storage.Domain)
    (h : Storage.memory.write ds rec = .ok ds') (hd : rec.deleted = false) (showDeleted : Bool) :
    Storage.memory.read ds' rec.domainID showDeleted = .ok rec := by
  cases h
  simp [Storage.memory, hd]

/-- An in-memory admin server: trees are numbered from 1 in the order they are created. -/
def AdminClient.memory : AdminClient (List Tree) where
  getTree ts treeId :=
    match ts.find? (·.treeId = treeId) with
    | some t => .ok t
    | none => .error (.external "tree not found")
  createTree ts t := .ok (ts ++ [{ t with treeId := GoInt.ofInt (ts.length + 1) }],
    { t with treeId := GoInt.ofInt (ts.length + 1) })

namespace Server

/-- A server on the in-memory store and admin servers, whose logs and maps are empty. -/
def sample : Server (List Storage.Domain) (List Tree) where
  tlog := ⟨fun _ _ => .ok none, fun ts _ _ => .ok ts⟩
  tmap := ⟨fun _ _ => .ok none⟩
  logAdmin := AdminClient.memory
  mapAdmin := AdminClient.memory
  domains := Storage.memory
  keygen ts := .ok (ts, [1])

end Server

/-- Package functions for the sample server: keys are their own public halves, and durations are
whole seconds, a duration with nanoseconds being refused. -/
def Lib.sample : Lib where
  newFromWrappedKey b := .ok b
  toPublicProto b := .ok ⟨b⟩
  duration
    | some d => if d.nanos = 0 then .ok d.seconds else .error (.external "fractional duration")
    | none => .error (.external "nil Duration")
  durationProto n := ⟨n, 0⟩
  canonicalSignedMapRoot _ := .ok []
  newLogHasher _ := .ok ()
  unmarshalPublicKey _ := .ok ()

theorem Lib.sample_duration (x : Option Duration) (n : Int64) (h : Lib.sample.duration x = .ok n) :
    some (Lib.sample.durationProto n) = x := by
  rcases x with _ | ⟨sec, nanos⟩
  · cases h
  · simp only [Lib.sample] at h
    split_ifs at h with hn
    cases h
    simp only [Lib.sample, hn]

/-- A world holding one domain, `example.com`, and its two trees. -/
def World.sample : World (List Storage.Domain) (List Tree) :=
  ⟨logArgsTree, mapArgsTree,
    [{ domainID := "example.com", mapID := 2, logID := 1, vrf := some ⟨[1]⟩, vrfPriv := [1]
       minInterval := 60, maxInterval := 3600, deleted := false }],
    [{ logArgsTree with treeId := 1 }, { mapArgsTree with treeId := 2 }]⟩

namespace Server

variable {σ τ : Type} (s : Server σ τ) (lib : Lib)

/-- Read back right after `CreateDomain` returned it, a domain is what `CreateDomain` returned,
with the intervals it was created with, which `CreateDomain`'s own reply leaves out: for a store
that reads back what it wrote, admin servers that return the trees `CreateDomain` got, and
durations that convert back. -/
theorem createDomain_getDomain (r : CreateDomainRequest) (w : World σ τ) {d : Domain}
    (h : ((s.createDomain lib r).exec w).2 = .ok d)
    (hread : ∀ st rec st', s.domains.write st rec = .ok st' → rec.deleted = false →
      ∀ showDeleted, s.domains.read st' rec.domainID showDeleted = .ok rec)
    (htrees : ∀ logTree mapTree, d.log = some logTree → d.map = some mapTree →
      s.logAdmin.getTree ((s.createDomain lib r).exec w).1.trillian logTree.treeId = .ok logTree ∧
      s.mapAdmin.getTree ((s.createDomain lib r).exec w).1.trillian mapTree.treeId = .ok mapTree)
    (hdur : ∀ x n, lib.duration x = .ok n → some (lib.durationProto n) = x) (showDeleted : Bool) :
    d.minInterval = none ∧ d.maxInterval = none ∧
      s.getDomain lib ((s.createDomain lib r).exec w).1 r.domainId showDeleted =
        .ok { d with minInterval := r.minInterval, maxInterval := r.maxInterval } := by
  obtain ⟨t₁, wrapped, priv, vrf, t₂, logTree, t₃, mapTree, minI, maxI, t₄, st, -, -, -, -, -, hmin, hmax, -, hw,
    he⟩ := s.createDomain_eq_ok lib h
  rw [he] at h htrees ⊢
  cases h
  refine ⟨rfl, rfl, ?_⟩
  obtain ⟨hl, hm⟩ := htrees logTree mapTree rfl rfl
  have hr : s.domains.read st r.domainId showDeleted = .ok (record r wrapped vrf logTree mapTree minI maxI) :=
    hread _ _ _ hw rfl showDeleted
  simp only [getDomain, hr, fetchDomain, record, hl, hm, bind, Except.bind, pure, Except.pure,
    ← hdur _ _ hmin, ← hdur _ _ hmax]

theorem createDomain_getDomain_sample :
    ∃ d, ((sample.createDomain Lib.sample ⟨"example.com", some ⟨60, 0⟩, some ⟨3600, 0⟩⟩).exec
        (World.init [] [])).2 = .ok d ∧ d.minInterval = none ∧ d.maxInterval = none ∧
      sample.getDomain Lib.sample ((sample.createDomain Lib.sample
          ⟨"example.com", some ⟨60, 0⟩, some ⟨3600, 0⟩⟩).exec (World.init [] [])).1 "example.com" false =
        .ok { d with minInterval := some ⟨60, 0⟩, maxInterval := some ⟨3600, 0⟩ } :=
  ⟨_, rfl, createDomain_getDomain sample Lib.sample ⟨"example.com", some ⟨60, 0⟩, some ⟨3600, 0⟩⟩
    (World.init [] []) rfl Storage.memory_read_write
    (fun _ _ hl hm => by cases hl; cases hm; exact ⟨rfl, rfl⟩) Lib.sample_duration false⟩

theorem listDomains_getDomain_sample :
    ∃ ds, sample.listDomains Lib.sample World.sample false = .ok ds ∧ ds.length = 1 ∧
      ∀ d ∈ ds, sample.getDomain Lib.sample World.sample d.domainId false = .ok d :=
  ⟨_, rfl, rfl, (listDomains_getDomain sample Lib.sample World.sample false rfl fun recs h rec hrec => by
    cases h
    obtain rfl := List.mem_singleton.mp hrec
    rfl).2⟩

/-- `DeleteDomain` and `UndeleteDomain`: `domains.SetDelete(domainID, isDeleted)`. -/
def setDelete (domainId : String) (isDeleted : Bool) : Handler σ τ Unit :=
  .ofFun fun w =>
    match s.domains.setDelete w.domains domainId isDeleted with
    | .error e => (w, .error e)
    | .ok d => ({ w with domains := d }, .ok ())

def deleteDomain (domainId : String) : Handler σ τ Unit := s.setDelete domainId true

def undeleteDomain (domainId : String) : Handler σ τ Unit := s.setDelete domainId false

end Server
end KeyTransparency.Adminserver
