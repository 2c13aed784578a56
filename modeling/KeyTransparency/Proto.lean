import KeyTransparency.GoInt

/-! The protocol messages read by the client, the mutation builder and the monitor, each under
its message's name with the fields the code uses. A nil message pointer is `none`; a nil slice
is `[]`. -/
namespace KeyTransparency

abbrev Bytes := List UInt8

structure PublicKey where
  der : Bytes
  deriving DecidableEq, Repr, Inhabited

/-- `sigpb.DigitallySigned`; the algorithm tags are left out. -/
structure DigitallySigned where
  signature : Bytes
  deriving DecidableEq, Repr, Inhabited

/-- `pb.Entry`, the value of a map leaf. The `signatures` map is kept as its pairs. -/
structure Entry where
  index : Bytes
  commitment : Bytes
  authorizedKeys : List PublicKey
  previous : Bytes
  signatures : List (String × DigitallySigned)
  deriving DecidableEq, Repr, Inhabited

/-- `pb.Committed`: the opening `(key, data)` of a commitment. -/
structure Committed where
  key : Bytes
  data : Bytes
  deriving DecidableEq, Repr, Inhabited

structure SignedMapRoot where
  timestampNanos : Int64
  rootHash : Bytes
  metadata : Bytes
  signature : Option DigitallySigned
  mapId : Int64
  mapRevision : Int64
  deriving DecidableEq, Repr, Inhabited

structure SignedLogRoot where
  timestampNanos : Int64
  rootHash : Bytes
  treeSize : Int64
  signature : Option DigitallySigned
  logId : Int64
  deriving DecidableEq, Repr, Inhabited

/-- `trillian.MapLeafInclusion`; a nil leaf reads as the leaf with no value. -/
structure MapLeafInclusion where
  leafValue : Bytes
  inclusion : List Bytes
  deriving DecidableEq, Repr, Inhabited

structure GetEntryResponse where
  vrfProof : Bytes
  committed : Option Committed
  leafProof : Option MapLeafInclusion
  smr : Option SignedMapRoot
  logRoot : Option SignedLogRoot
  logConsistency : List Bytes
  logInclusion : List Bytes
  deriving DecidableEq, Repr, Inhabited

namespace GetEntryResponse

/-- `in.GetLeafProof().GetLeaf().GetLeafValue()`. -/
def leafValue (r : GetEntryResponse) : Bytes := (r.leafProof.map (·.leafValue)).getD []

/-- `v.GetCommitted().GetData()`. -/
def profile (r : GetEntryResponse) : Bytes := (r.committed.map (·.data)).getD []

/-- `in.GetSmr()` read through its getters: a nil root reads as the zero root. -/
def smrOrZero (r : GetEntryResponse) : SignedMapRoot := r.smr.getD default

end GetEntryResponse

structure GetEntryRequest where
  domainId : String
  userId : String
  appId : String
  firstTreeSize : Int64
  deriving DecidableEq, Repr

structure ListEntryHistoryRequest where
  domainId : String
  userId : String
  appId : String
  start : Int64
  pageSize : Int32
  deriving DecidableEq, Repr

structure ListEntryHistoryResponse where
  values : List GetEntryResponse
  nextStart : Int64
  deriving DecidableEq, Repr, Inhabited

structure EntryUpdate where
  mutation : Entry
  committed : Committed
  deriving DecidableEq, Repr

structure UpdateEntryRequest where
  domainId : String
  userId : String
  appId : String
  firstTreeSize : Int64
  entryUpdate : EntryUpdate
  deriving DecidableEq, Repr

/-- `pb.UpdateEntryResponse`; a nil proof reads as the empty response. -/
structure UpdateEntryResponse where
  proof : GetEntryResponse
  deriving DecidableEq, Repr

structure Epoch where
  smr : Option SignedMapRoot
  logRoot : Option SignedLogRoot
  logConsistency : List Bytes
  logInclusion : List Bytes
  deriving DecidableEq, Repr, Inhabited

structure MutationProof where
  mutation : Entry
  leafProof : MapLeafInclusion
  deriving DecidableEq, Repr

inductive TreeType where
  | unknownTreeType
  | log
  | map
  deriving DecidableEq, Repr, Inhabited

/-- `trillian.HashStrategy`: the strategies the code names, and any other by its number. -/
inductive HashStrategy where
  | unknownHashStrategy
  | objectRfc6962Sha256
  | coniksSha512_256
  | other (value : Int32)
  deriving DecidableEq, Repr, Inhabited

/-- `trillian.Tree`, with the fields the admin server and the clients' `NewFromConfig` set or
read; a nil public key is `none`. -/
structure Tree where
  treeId : Int64
  treeType : TreeType
  hashStrategy : HashStrategy
  displayName : String
  description : String
  publicKey : Option PublicKey
  deriving DecidableEq, Repr, Inhabited

structure Duration where
  seconds : Int64
  nanos : Int32
  deriving DecidableEq, Repr, Inhabited

/-- `pb.Domain`: a domain's trees, VRF key and signing intervals. -/
structure Domain where
  domainId : String
  log : Option Tree
  map : Option Tree
  vrf : Option PublicKey
  minInterval : Option Duration
  maxInterval : Option Duration
  deleted : Bool
  deriving DecidableEq, Repr, Inhabited

/-- Go `error` values: the sentinels the code compares against, errors of collaborators
outside the repository, and `fmt.Errorf` wrappers named by their format's prefix. -/
inductive Error where
  | nilProof
  | incomplete
  | retry
  | missingKey
  | startNegative (start : Int64)
  | external (msg : String)
  | wrap (context : String) (inner : Error)
  | nilDereference
  deriving DecidableEq, Repr

theorem Except.bind_eq_ok {ε α β : Type} {x : Except ε α} {f : α → Except ε β} {b : β} :
    x >>= f = .ok b ↔ ∃ a, x = .ok a ∧ f a = .ok b := by
  cases x <;> simp [bind, Except.bind]

theorem Except.bind_eq_error {ε α β : Type} {x : Except ε α} {f : α → Except ε β} {e : ε} :
    x >>= f = .error e ↔ x = .error e ∨ ∃ a, x = .ok a ∧ f a = .error e := by
  cases x <;> simp [bind, Except.bind]

@[simp] theorem Except.mapError_eq_ok {ε ε' α : Type} {x : Except ε α} {f : ε → ε'} {a : α} :
    x.mapError f = .ok a ↔ x = .ok a := by
  cases x <;> simp [Except.mapError]

@[simp] theorem Except.mapError_eq_error {ε ε' α : Type} {x : Except ε α} {f : ε → ε'} {e : ε'} :
    x.mapError f = .error e ↔ ∃ e', x = .error e' ∧ e = f e' := by
  cases x <;> simp [Except.mapError, eq_comm]

end KeyTransparency
