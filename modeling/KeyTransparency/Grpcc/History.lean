import KeyTransparency.Grpcc.Client

/-! `Client.ListHistory`: the pagination loop over the server's pages and the profile
compression across them. The server's replies are an input stream, one per request; a
stream that runs out leaves the client waiting on its last request. -/
namespace KeyTransparency.Grpcc

def pageSize : Int32 := 16

/-- The client's own `min` over `int32`. -/
protected def min (x y : Int32) : Int32 := if x < y then x else y

/-- The locals `ListHistory` carries across its loop, and the requests sent so far. -/
structure HistoryState where
  start : Int64
  currentProfile : Bytes
  profiles : List (SignedMapRoot × Bytes)
  epochsReceived : Int64
  requests : List ListEntryHistoryRequest

inductive HistoryExit where
  | done
  | failed (e : Error)
  | waiting
  deriving DecidableEq, Repr

/-- The outcome of a call: the requests it sent and, once it returned, its result. -/
structure HistoryRun where
  requests : List ListEntryHistoryRequest
  result : Option (Except Error (List (SignedMapRoot × Bytes)))

namespace Client

def historyRequest (c : Client) (userID appID : String) (start end_ : Int64) :
    ListEntryHistoryRequest :=
  { domainId := c.domainID, userId := userID, appId := appID, start := start,
    pageSize := Grpcc.min (GoInt.cast ((end_ - start) + 1)) pageSize }

/-- The body of the inner loop: verify a value against `c.trusted`, then record its profile
under its SMR unless it equals the current profile. -/
def historyValue (c : Client) (userID appID : String) (acc : Bytes × List (SignedMapRoot × Bytes))
    (v : GetEntryResponse) : Except Error (Bytes × List (SignedMapRoot × Bytes)) := do
  c.kt.verifyGetEntryResponse c.domainID appID userID c.trusted v
  if acc.1 = v.profile then return acc
  return (v.profile, acc.2 ++ [(v.smrOrZero, v.profile)])

/-- The pagination loop `for epochsReceived < epochsWant`, one reply per request. -/
def historyLoop (c : Client) (userID appID : String) (end_ epochsWant : Int64) :
    List (Except Error ListEntryHistoryResponse) → HistoryState → HistoryState × HistoryExit
  | [], s =>
    if s.epochsReceived < epochsWant then
      ({ s with requests := s.requests ++ [c.historyRequest userID appID s.start end_] }, .waiting)
    else (s, .done)
  | reply :: replies, s =>
    if s.epochsReceived < epochsWant then
      let s := { s with requests := s.requests ++ [c.historyRequest userID appID s.start end_] }
      match reply with
      | .error e => (s, .failed e)
      | .ok resp =>
        let s := { s with epochsReceived := s.epochsReceived + GoInt.ofInt resp.values.length }
        match resp.values.foldlM (c.historyValue userID appID) (s.currentProfile, s.profiles) with
        | .error e => (s, .failed e)
        | .ok (current, profiles) =>
          let s := { s with currentProfile := current, profiles := profiles }
          if resp.nextStart = 0 then (s, .done)
          else c.historyLoop userID appID end_ epochsWant replies { s with start := resp.nextStart }
    else (s, .done)

/-- `ListHistory(userID, appID, start, end)`. -/
def listHistory (c : Client) (userID appID : String) (start end_ : Int64)
    (replies : List (Except Error ListEntryHistoryResponse)) : HistoryRun :=
  if start < 0 then ⟨[], some (.error (.startNegative start))⟩
  else
    let epochsWant := end_ - start + 1
    let (s, exit) := c.historyLoop userID appID end_ epochsWant replies ⟨start, [], [], 0, []⟩
    ⟨s.requests, match exit with
      | .waiting => none
      | .failed e => some (.error e)
      | .done => some (if s.epochsReceived < epochsWant then .error .incomplete else .ok s.profiles)⟩

end Client

/-- The values of the pages the server sent, in order. -/
def pageValues : List (Except Error ListEntryHistoryResponse) → List GetEntryResponse
  | [] => []
  | .ok resp :: replies => resp.values ++ pageValues replies
  | .error _ :: replies => pageValues replies

/-- The profile changes along a sequence of responses, from the profile `prev`: each
response whose profile differs from the one before it, under its own SMR. -/
def profileChanges : Bytes → List GetEntryResponse → List (SignedMapRoot × Bytes)
  | _, [] => []
  | prev, v :: vs =>
    if prev = v.profile then profileChanges v.profile vs
    else (v.smrOrZero, v.profile) :: profileChanges v.profile vs

def lastProfile (prev : Bytes) (vs : List GetEntryResponse) : Bytes :=
  vs.foldl (fun _ v => v.profile) prev

@[simp] theorem pageValues_append (xs ys : List (Except Error ListEntryHistoryResponse)) :
    pageValues (xs ++ ys) = pageValues xs ++ pageValues ys := by
  induction xs with
  | nil => rfl
  | cons x xs ih => cases x <;> simp [pageValues, ih]

theorem lastProfile_append (prev : Bytes) (vs ws : List GetEntryResponse) :
    lastProfile prev (vs ++ ws) = lastProfile (lastProfile prev vs) ws := List.foldl_append _ _ _ _

theorem profileChanges_append (prev : Bytes) (vs ws : List GetEntryResponse) :
    profileChanges prev (vs ++ ws) = profileChanges prev vs ++ profileChanges (lastProfile prev vs) ws := by
  induction vs generalizing prev with
  | nil => rfl
  | cons v vs ih => by_cases h : prev = v.profile <;> simp [profileChanges, lastProfile, h, ih]

namespace Client
variable {c : Client} {userID appID : String}

theorem historyValue_eq_ok {acc acc' : Bytes × List (SignedMapRoot × Bytes)} {v : GetEntryResponse} :
    c.historyValue userID appID acc v = .ok acc' ↔
      c.kt.verifyGetEntryResponse c.domainID appID userID c.trusted v = .ok () ∧
        acc' = (v.profile, acc.2 ++ profileChanges acc.1 [v]) := by
  obtain ⟨cur, profs⟩ := acc
  cases h : c.kt.verifyGetEntryResponse c.domainID appID userID c.trusted v with
  | error => simp [historyValue, h, bind, Except.bind]
  | ok =>
    by_cases hp : cur = v.profile <;>
      simp [historyValue, profileChanges, h, hp, bind, Except.bind, pure, Except.pure, eq_comm]

theorem foldlM_historyValue {vs : List GetEntryResponse} {cur cur' : Bytes}
    {profs profs' : List (SignedMapRoot × Bytes)}
    (h : vs.foldlM (c.historyValue userID appID) (cur, profs) = .ok (cur', profs')) :
    (∀ v ∈ vs, c.kt.verifyGetEntryResponse c.domainID appID userID c.trusted v = .ok ()) ∧
      profs' = profs ++ profileChanges cur vs ∧ cur' = lastProfile cur vs := by
  induction vs generalizing cur profs with
  | nil => simp_all [pure, Except.pure, lastProfile, profileChanges]
  | cons v vs ih =>
    obtain ⟨acc, hv, hrest⟩ := Except.bind_eq_ok.mp h
    obtain ⟨hver, rfl⟩ := historyValue_eq_ok.mp hv
    obtain ⟨hall, hprofs, hcur⟩ := ih hrest
    refine ⟨by simp_all, ?_, hcur⟩
    rw [hprofs, show v :: vs = [v] ++ vs from rfl, profileChanges_append]
    simp [lastProfile]

/-- What the loop did from `s` to `s'` while consuming the replies `pre`: one request per
reply, every value verified, the changes along the values recorded, the values counted. -/
structure Consumed (c : Client) (userID appID : String)
    (pre : List (Except Error ListEntryHistoryResponse)) (s s' : HistoryState) : Prop where
  requests : s'.requests.length = s.requests.length + pre.length
  verified : ∀ v ∈ pageValues pre,
    c.kt.verifyGetEntryResponse c.domainID appID userID c.trusted v = .ok ()
  profiles : s'.profiles = s.profiles ++ profileChanges s.currentProfile (pageValues pre)
  current : s'.currentProfile = lastProfile s.currentProfile (pageValues pre)
  received : s'.epochsReceived.val = GoInt.wrap 64 (s.epochsReceived.val + (pageValues pre).length)

theorem Consumed.refl (s : HistoryState) : Consumed c userID appID [] s s where
  requests := rfl
  verified := by simp [pageValues]
  profiles := by simp [pageValues, profileChanges]
  current := rfl
  received := by simpa [pageValues] using (GoInt.wrap64_of_range s.epochsReceived.range).symm

theorem Consumed.trans {pre pre' : List (Except Error ListEntryHistoryResponse)}
    {s s₁ s₂ : HistoryState} (h₁ : Consumed c userID appID pre s s₁)
    (h₂ : Consumed c userID appID pre' s₁ s₂) : Consumed c userID appID (pre ++ pre') s s₂ where
  requests := by rw [h₂.requests, h₁.requests, List.length_append, Nat.add_assoc]
  verified v hv := by
    rcases List.mem_append.mp ((pageValues_append pre pre') ▸ hv) with hv | hv
    exacts [h₁.verified v hv, h₂.verified v hv]
  profiles := by rw [h₂.profiles, h₁.profiles, h₁.current, pageValues_append, profileChanges_append,
    List.append_assoc]
  current := by rw [h₂.current, h₁.current, pageValues_append, lastProfile_append]
  received := by
    rw [h₂.received, h₁.received, GoInt.wrap_wrap_add, pageValues_append, List.length_append]
    push_cast
    rw [Int.add_assoc]

theorem consumed_page {s : HistoryState} {resp : ListEntryHistoryResponse} {cur : Bytes}
    {profs : List (SignedMapRoot × Bytes)} (start : Int64) (req : ListEntryHistoryRequest)
    (h : resp.values.foldlM (c.historyValue userID appID) (s.currentProfile, s.profiles) = .ok (cur, profs)) :
    Consumed c userID appID [.ok resp] s
      ⟨start, cur, profs, s.epochsReceived + GoInt.ofInt resp.values.length, s.requests ++ [req]⟩ := by
  obtain ⟨hv, hp, hc⟩ := foldlM_historyValue h
  exact ⟨by simp, by simpa [pageValues] using hv, by simpa [pageValues] using hp,
    by simpa [pageValues] using hc, by simp [pageValues, GoInt.wrap_add_wrap]⟩

/-- One pass of the loop on a reply, said once: it does not ask, or it logs its request and
then stops on an error, or takes the page and stops on a last page or goes on from
`NextStart`. -/
theorem historyLoop_cons {end_ want : Int64} {reply : Except Error ListEntryHistoryResponse}
    {replies : List (Except Error ListEntryHistoryResponse)} {s : HistoryState} :
    (¬ s.epochsReceived < want ∧ c.historyLoop userID appID end_ want (reply :: replies) s = (s, .done)) ∨
    (s.epochsReceived < want ∧ ∃ e, (c.historyLoop userID appID end_ want (reply :: replies) s).2 = .failed e ∧
      (c.historyLoop userID appID end_ want (reply :: replies) s).1.requests =
        s.requests ++ [c.historyRequest userID appID s.start end_]) ∨
    s.epochsReceived < want ∧ ∃ resp cur profs, reply = .ok resp ∧
      resp.values.foldlM (c.historyValue userID appID) (s.currentProfile, s.profiles) = .ok (cur, profs) ∧
      ((resp.nextStart = 0 ∧ c.historyLoop userID appID end_ want (reply :: replies) s =
          (⟨s.start, cur, profs, s.epochsReceived + GoInt.ofInt resp.values.length,
            s.requests ++ [c.historyRequest userID appID s.start end_]⟩, .done)) ∨
        (resp.nextStart ≠ 0 ∧ c.historyLoop userID appID end_ want (reply :: replies) s =
          c.historyLoop userID appID end_ want replies
            ⟨resp.nextStart, cur, profs, s.epochsReceived + GoInt.ofInt resp.values.length,
              s.requests ++ [c.historyRequest userID appID s.start end_]⟩)) := by
  rw [historyLoop]
  split_ifs with hlt
  · rcases reply with e | resp
    · exact .inr (.inl ⟨hlt, e, rfl, rfl⟩)
    · simp only
      split
      · exact .inr (.inl ⟨hlt, _, rfl, rfl⟩)
      · rename_i cur profs hf
        refine .inr (.inr ⟨hlt, resp, cur, profs, rfl, hf, ?_⟩)
        split_ifs with hn
        exacts [.inl ⟨hn, rfl⟩, .inr ⟨hn, rfl⟩]
  · exact .inl ⟨hlt, rfl⟩

theorem historyLoop_done {end_ want : Int64} {replies : List (Except Error ListEntryHistoryResponse)}
    {s s' : HistoryState} (h : c.historyLoop userID appID end_ want replies s = (s', .done)) :
    ∃ pre post, replies = pre ++ post ∧ Consumed c userID appID pre s s' := by
  induction replies generalizing s with
  | nil =>
    unfold historyLoop at h
    split_ifs at h <;> cases h
    exact ⟨[], [], rfl, .refl _⟩
  | cons reply replies ih =>
    rcases @historyLoop_cons c userID appID end_ want reply replies s with
      ⟨-, hs⟩ | ⟨-, e, hs, -⟩ | ⟨-, resp, cur, profs, rfl, hf, ⟨-, hs⟩ | ⟨-, hs⟩⟩ <;> rw [h] at hs
    · cases hs
      exact ⟨[], reply :: replies, rfl, .refl _⟩
    · simp at hs
    · cases hs
      exact ⟨[.ok resp], replies, rfl, consumed_page _ _ hf⟩
    · obtain ⟨pre, post, rfl, hc⟩ := ih hs.symm
      exact ⟨.ok resp :: pre, post, rfl, (consumed_page resp.nextStart _ hf).trans hc⟩

theorem listHistory_ok {start end_ : Int64} {replies : List (Except Error ListEntryHistoryResponse)}
    {profiles : List (SignedMapRoot × Bytes)}
    (h : (c.listHistory userID appID start end_ replies).result = some (.ok profiles)) :
    ∃ s pre post, replies = pre ++ post ∧ 0 ≤ start.val ∧
      Consumed c userID appID pre ⟨start, [], [], 0, []⟩ s ∧ ¬ s.epochsReceived < end_ - start + 1 ∧
      profiles = s.profiles ∧ (c.listHistory userID appID start end_ replies).requests = s.requests := by
  unfold listHistory at h ⊢
  split_ifs at h ⊢ with hs
  · simp at h
  · rcases hl : c.historyLoop userID appID end_ (end_ - start + 1) replies ⟨start, [], [], 0, []⟩
      with ⟨s, _ | e | _⟩ <;> simp only [hl] at h ⊢
    · split_ifs at h with hlt
      · simp at h
      · obtain ⟨pre, post, rfl, hc⟩ := historyLoop_done hl
        exact ⟨s, pre, post, rfl, by simpa using hs, hc, hlt, by simpa using h.symm, rfl⟩
    · simp at h
    · simp at h

/-- A history that returns holds exactly the profile changes along the values received,
starting from the nil profile, whatever the split of those values into pages. -/
theorem listHistory_eq_profileChanges {start end_ : Int64}
    {replies : List (Except Error ListEntryHistoryResponse)} {profiles : List (SignedMapRoot × Bytes)}
    (h : (c.listHistory userID appID start end_ replies).result = some (.ok profiles)) :
    profiles = profileChanges []
      (pageValues (replies.take (c.listHistory userID appID start end_ replies).requests.length)) := by
  obtain ⟨s, pre, post, rfl, -, hc, -, rfl, hreq⟩ := listHistory_ok h
  rw [hreq, hc.requests, hc.profiles]
  simp

/-- Two pages, the second withholding the opening: both values are recorded. -/
theorem listHistory_two_pages :
    let run := (new "example.com" Verifier.sample).listHistory "alice" "app" 0 1
      [.ok ⟨[sampleReply], 1⟩, .ok ⟨[{ sampleReply with committed := none }], 0⟩]
    run.result = some (.ok [(sampleReply.smrOrZero, [7]), (sampleReply.smrOrZero, [])]) ∧
      [(sampleReply.smrOrZero, [7]), (sampleReply.smrOrZero, [])] = profileChanges []
        (pageValues ([.ok ⟨[sampleReply], 1⟩, .ok ⟨[{ sampleReply with committed := none }], 0⟩].take
          run.requests.length)) :=
  ⟨rfl, listHistory_eq_profileChanges rfl⟩

/-- `epochsWant = end - start + 1` is exact unless it wraps, which for `0 ≤ start ≤ end`
only `start = 0, end = 2^63 - 1` does. -/
theorem epochsWant_val {start end_ : Int64} (he : start.val ≤ end_.val)
    (hw : end_.val - start.val < 2^63 - 1) :
    (end_ - start + 1).val = end_.val - start.val + 1 := by
  have := end_.range
  simp only [GoInt.val_add, GoInt.val_sub, GoInt.wrap_wrap_add]
  rw [show (1 : Int64).val = 1 from rfl, GoInt.wrap64_of_range (by omega)]

theorem historyRequest_pageSize (st end_ : Int64) :
    (c.historyRequest userID appID st end_).pageSize.val ≤ 16 ∧
      (-2^31 ≤ end_.val - st.val + 1 → end_.val - st.val + 1 < 2^31 →
        (1 ≤ (c.historyRequest userID appID st end_).pageSize.val ↔ st.val ≤ end_.val)) := by
  have := end_.range
  have := st.range
  have h16 : (pageSize).val = 16 := rfl
  simp only [historyRequest, Grpcc.min, GoInt.lt_def, h16]
  split_ifs with hlt <;>
    simp only [GoInt.val_cast, GoInt.val_add, GoInt.val_sub, GoInt.wrap_wrap_add, h16] at hlt ⊢ <;>
    rw [show (1 : Int64).val = 1 from rfl] at * <;>
    simp only [GoInt.wrap64_eq, GoInt.wrap32_eq] at hlt ⊢ <;> omega

private theorem mem_snoc_request {l : List ListEntryHistoryRequest} {st end_ : Int64}
    {req : ListEntryHistoryRequest} (h : req ∈ l ++ [c.historyRequest userID appID st end_]) :
    req ∈ l ∨ ∃ st, req = c.historyRequest userID appID st end_ := by
  simp only [List.mem_append, List.mem_singleton] at h
  exact h.imp_right fun h => ⟨st, h⟩

theorem historyLoop_requests {end_ want : Int64} {replies : List (Except Error ListEntryHistoryResponse)}
    {s : HistoryState} :
    ∀ req ∈ (c.historyLoop userID appID end_ want replies s).1.requests,
      req ∈ s.requests ∨ ∃ st, req = c.historyRequest userID appID st end_ := by
  induction replies generalizing s with
  | nil =>
    unfold historyLoop
    split_ifs
    exacts [fun _ h => mem_snoc_request h, fun _ h => .inl h]
  | cons reply replies ih =>
    intro req hreq
    rcases @historyLoop_cons c userID appID end_ want reply replies s with
      ⟨-, hs⟩ | ⟨-, -, -, hs⟩ | ⟨-, resp, cur, profs, -, -, ⟨-, hs⟩ | ⟨-, hs⟩⟩ <;> rw [hs] at hreq
    · exact .inl hreq
    · exact mem_snoc_request hreq
    · exact mem_snoc_request hreq
    · rcases ih req hreq with h | h
      exacts [mem_snoc_request h, .inr h]

theorem listHistory_requests {start end_ : Int64}
    {replies : List (Except Error ListEntryHistoryResponse)} :
    (c.listHistory userID appID start end_ replies).requests = if start < 0 then [] else
      (c.historyLoop userID appID end_ (end_ - start + 1) replies ⟨start, [], [], 0, []⟩).1.requests := by
  unfold listHistory
  split_ifs <;> rfl

theorem listHistory_result_eq_none {start end_ : Int64}
    {replies : List (Except Error ListEntryHistoryResponse)} :
    (c.listHistory userID appID start end_ replies).result = none ↔ ¬ start < 0 ∧
      (c.historyLoop userID appID end_ (end_ - start + 1) replies ⟨start, [], [], 0, []⟩).2 = .waiting := by
  unfold listHistory
  split_ifs with hs
  · simp [hs]
  · rcases hl : c.historyLoop userID appID end_ (end_ - start + 1) replies ⟨start, [], [], 0, []⟩
      with ⟨s, _ | e | _⟩ <;> simp [hs, hl]

/-- Every page request asks for at most 16 values, and for at least one exactly when its
start is not past `end`, given that `end - start + 1` fits an `int32`. -/
theorem listHistory_pageSize {start end_ : Int64}
    {replies : List (Except Error ListEntryHistoryResponse)} :
    ∀ req ∈ (c.listHistory userID appID start end_ replies).requests,
      req.pageSize.val ≤ 16 ∧ (-2^31 ≤ end_.val - req.start.val + 1 →
        end_.val - req.start.val + 1 < 2^31 → (1 ≤ req.pageSize.val ↔ req.start.val ≤ end_.val)) := by
  intro req hreq
  rw [listHistory_requests] at hreq
  split_ifs at hreq
  · simp at hreq
  · rcases historyLoop_requests req hreq with h | ⟨st, rfl⟩
    · simp at h
    · exact historyRequest_pageSize st end_

/-- With no reply yet, `ListHistory(0, 3)` has sent one request, for four values. -/
theorem listHistory_pageSize_first :
    (new "example.com" Verifier.sample).historyRequest "alice" "app" 0 3 ∈
        ((new "example.com" Verifier.sample).listHistory "alice" "app" 0 3 []).requests ∧
      ((new "example.com" Verifier.sample).historyRequest "alice" "app" 0 3).pageSize.val ≤ 16 ∧
      (-2^31 ≤ (3 : Int64).val - (0 : Int64).val + 1 → (3 : Int64).val - (0 : Int64).val + 1 < 2^31 →
        (1 ≤ ((new "example.com" Verifier.sample).historyRequest "alice" "app" 0 3).pageSize.val ↔
          (0 : Int64).val ≤ (3 : Int64).val)) := by
  have hmem : (new "example.com" Verifier.sample).historyRequest "alice" "app" 0 3 ∈
      ((new "example.com" Verifier.sample).listHistory "alice" "app" 0 3 []).requests := by
    rw [show ((new "example.com" Verifier.sample).listHistory "alice" "app" 0 3 []).requests =
      [(new "example.com" Verifier.sample).historyRequest "alice" "app" 0 3] from rfl]
    exact List.mem_singleton_self _
  exact ⟨hmem, listHistory_pageSize _ hmem⟩

/-- The loop's requests when every page that points onward carries a value and the count
never wraps: a request goes out only while fewer than `want` values have arrived, and each
page answered adds one. -/
theorem historyLoop_requests_le {end_ want : Int64}
    {replies : List (Except Error ListEntryHistoryResponse)} {s : HistoryState}
    (hne : ∀ resp, .ok resp ∈ replies → resp.nextStart ≠ 0 → resp.values ≠ [])
    (hn : (s.requests.length : Int) ≤ s.epochsReceived.val) (hr : 0 ≤ s.epochsReceived.val)
    (htot : s.epochsReceived.val + (pageValues replies).length < 2^63) :
    ((c.historyLoop userID appID end_ want replies s).1.requests.length : Int) ≤
        max (s.requests.length : Int) want.val ∧
      ((c.historyLoop userID appID end_ want replies s).2 = .waiting →
        s.epochsReceived.val + replies.length < want.val) := by
  induction replies generalizing s with
  | nil =>
    unfold historyLoop
    split_ifs with hlt
    · simp only [GoInt.lt_def] at hlt
      simp only [List.length_append, List.length_singleton, List.length_nil]
      omega
    · simp
  | cons reply replies ih =>
    rcases @historyLoop_cons c userID appID end_ want reply replies s with
      ⟨-, hs⟩ | ⟨hlt, e, he, hs⟩ | ⟨hlt, resp, cur, profs, rfl, -, ⟨-, hs⟩ | ⟨hns, hs⟩⟩
    · rw [hs]
      exact ⟨le_max_left _ _, by simp⟩
    all_goals
      simp only [GoInt.lt_def] at hlt
      have hsent : ((s.requests ++ [c.historyRequest userID appID s.start end_]).length : Int) ≤
          max (s.requests.length : Int) want.val := by
        simp only [List.length_append, List.length_singleton]; omega
    · rw [hs, he]
      exact ⟨hsent, by simp⟩
    · rw [hs]
      exact ⟨hsent, by simp⟩
    -- a page that points onward carries a value, so the count grows with the requests
    · have hv := List.length_pos.mpr (hne resp (by simp) hns)
      simp only [pageValues, List.length_append, Nat.cast_add] at htot
      have hwr : (s.epochsReceived + GoInt.ofInt resp.values.length).val =
          s.epochsReceived.val + resp.values.length := by
        rw [GoInt.val_add, GoInt.val_ofInt, GoInt.wrap_add_wrap, GoInt.wrap64_of_range (by omega)]
      obtain ⟨ih₁, ih₂⟩ := @ih ⟨resp.nextStart, cur, profs,
        s.epochsReceived + GoInt.ofInt resp.values.length,
        s.requests ++ [c.historyRequest userID appID s.start end_]⟩
        (fun r hr => hne r (by simp [hr]))
        (by simp only [List.length_append, List.length_singleton, hwr]; omega)
        (by simp only [hwr]; omega) (by simp only [hwr]; omega)
      simp only [List.length_append, List.length_singleton, hwr] at ih₁ ih₂
      rw [hs]
      exact ⟨by omega, fun h => by simp only [List.length_cons]; have := ih₂ h; omega⟩

theorem historyLoop_empty_pages {end_ want nextStart : Int64} (hns : nextStart ≠ 0) (k : Nat)
    {s : HistoryState} (hlt : s.epochsReceived < want) :
    ((c.historyLoop userID appID end_ want (List.replicate k (.ok ⟨[], nextStart⟩)) s).1.requests.length =
        s.requests.length + (k + 1)) ∧
      (c.historyLoop userID appID end_ want (List.replicate k (.ok ⟨[], nextStart⟩)) s).2 = .waiting := by
  induction k generalizing s with
  | zero =>
    unfold historyLoop
    simp [hlt]
  | succ k ih =>
    -- an empty page leaves the count as it was
    have h0 : s.epochsReceived + GoInt.ofInt (([] : List GetEntryResponse).length) = s.epochsReceived :=
      GoInt.ext_val (by simp [GoInt.wrap_add_wrap, GoInt.wrap64_of_range s.epochsReceived.range])
    obtain ⟨ih₁, ih₂⟩ := @ih ⟨nextStart, s.currentProfile, s.profiles, s.epochsReceived,
      s.requests ++ [c.historyRequest userID appID s.start end_]⟩ hlt
    rw [List.replicate_succ, historyLoop]
    simp only [hlt, if_true, List.foldlM_nil, h0, pure, Except.pure, hns, if_false]
    refine ⟨?_, ih₂⟩
    rw [ih₁, List.length_append, List.length_singleton]
    omega

/-- When every page that points onward carries a value (and fewer than `2^63` values arrive in
all), `ListHistory(start, end)` sends at most `end - start + 1` requests, and it has returned
once the server has answered that many. Pages with no values that point onward do not count:
after `k` of them it is still waiting, having sent `k + 1` requests. -/
theorem listHistory_requests_le {start end_ : Int64}
    {replies : List (Except Error ListEntryHistoryResponse)}
    (hs : 0 ≤ start.val) (he : start.val ≤ end_.val) (hw : end_.val - start.val < 2^63 - 1)
    (hne : ∀ resp, .ok resp ∈ replies → resp.nextStart ≠ 0 → resp.values ≠ [])
    (htot : (pageValues replies).length < 2^63) :
    ((c.listHistory userID appID start end_ replies).requests.length : Int) ≤
        end_.val - start.val + 1 ∧
      (end_.val - start.val + 1 ≤ replies.length →
        (c.listHistory userID appID start end_ replies).result.isSome) ∧
      ∀ (nextStart : Int64) (k : Nat), nextStart ≠ 0 →
        (c.listHistory userID appID start end_ (List.replicate k (.ok ⟨[], nextStart⟩))).requests.length =
          k + 1 ∧
        (c.listHistory userID appID start end_ (List.replicate k (.ok ⟨[], nextStart⟩))).result = none := by
  have hnn : ¬ start < 0 := by simp only [GoInt.lt_def, GoInt.val_zero]; omega
  obtain ⟨h₁, h₂⟩ := @historyLoop_requests_le c userID appID end_ (end_ - start + 1) replies
    ⟨start, [], [], 0, []⟩ hne
    (by simp) (by simp) (by simpa using htot)
  rw [epochsWant_val he hw] at h₁ h₂
  refine ⟨by rw [listHistory_requests, if_neg hnn]; simp only [List.length_nil, Nat.cast_zero] at h₁; omega,
    fun hlen => ?_, fun nextStart k hns => ?_⟩
  · rw [Option.isSome_iff_ne_none, Ne, listHistory_result_eq_none]
    rintro ⟨-, hwait⟩
    have := h₂ hwait
    simp only [GoInt.val_zero, Int.zero_add] at this
    omega
  · -- nothing has arrived yet, so the loop asks for the first page
    have hlt : (0 : Int64) < end_ - start + 1 := by
      rw [GoInt.lt_def, epochsWant_val he hw, GoInt.val_zero]
      omega
    obtain ⟨he₁, he₂⟩ := @historyLoop_empty_pages c userID appID end_ (end_ - start + 1) nextStart hns k
      ⟨start, [], [], 0, []⟩ hlt
    refine ⟨?_, listHistory_result_eq_none.mpr ⟨hnn, he₂⟩⟩
    rw [listHistory_requests, if_neg hnn, he₁, List.length_nil, Nat.zero_add]

theorem listHistory_requests_le_two_pages :
    let replies : List (Except Error ListEntryHistoryResponse) :=
      [.ok ⟨[sampleReply], 1⟩, .ok ⟨[{ sampleReply with committed := none }], 0⟩]
    let run := (new "example.com" Verifier.sample).listHistory "alice" "app" 0 1 replies
    (0 ≤ (0 : Int64).val ∧ (0 : Int64).val ≤ (1 : Int64).val ∧ (1 : Int64).val - (0 : Int64).val < 2^63 - 1 ∧
      (∀ resp, .ok resp ∈ replies → resp.nextStart ≠ 0 → resp.values ≠ []) ∧
      (pageValues replies).length < 2^63) ∧
    (run.requests.length : Int) ≤ (1 : Int64).val - (0 : Int64).val + 1 ∧
      ((1 : Int64).val - (0 : Int64).val + 1 ≤ replies.length → run.result.isSome) := by
  have hne : ∀ resp, (.ok resp : Except Error ListEntryHistoryResponse) ∈
      [.ok ⟨[sampleReply], 1⟩, .ok ⟨[{ sampleReply with committed := none }], 0⟩] →
      resp.nextStart ≠ 0 → resp.values ≠ [] := by
    intro resp h; simp at h; rcases h with rfl | rfl <;> simp
  have h := @listHistory_requests_le (new "example.com" Verifier.sample) "alice" "app" 0 1 _
    (by decide) (by decide) (by decide) hne (by decide)
  exact ⟨⟨by decide, by decide, by decide, hne, by decide⟩, h.1, h.2.1⟩

end Client

/-- After a page that points past `end`, `ListHistory(0, 0)` asks for a page of size -4. -/
theorem listHistory_nonpositive_pageSize :
    ((Client.new "example.com" Verifier.sample).listHistory "alice" "app" 0 0
      [.ok ⟨[], 5⟩]).requests.map (·.pageSize.val) = [1, -4] := rfl

/-- `ListHistory(0, 0)` returns the profile of one value for revision 7 without error; and
`ListHistory(0, MaxInt64)`, whose `end - start + 1` wraps to `-2^63`, returns an empty map
without error and without sending a request, whatever the server would answer. -/
theorem listHistory_accepts_other_revision :
    ((Client.new "example.com" Verifier.sample).listHistory "alice" "app" 0 0
        [.ok ⟨[Client.sampleReply], 0⟩]).result = some (.ok [(Client.sampleReply.smrOrZero, [7])]) ∧
      Client.sampleReply.smrOrZero.mapRevision.val = 7 ∧
      ∀ replies, ((Client.new "example.com" Verifier.sample).listHistory "alice" "app" 0 9223372036854775807
          replies).requests = [] ∧
        ((Client.new "example.com" Verifier.sample).listHistory "alice" "app" 0 9223372036854775807
          replies).result = some (.ok []) :=
  ⟨rfl, rfl, fun replies => by cases replies <;> exact ⟨rfl, rfl⟩⟩

/-- One empty page pointing onward: `ListHistory(0, 0)` has sent two requests and not returned. -/
theorem listHistory_empty_page_two_requests :
    ((Client.new "example.com" Verifier.sample).listHistory "alice" "app" 0 0
      [.ok ⟨[], 1⟩]).requests.length = 2 ∧
    ((Client.new "example.com" Verifier.sample).listHistory "alice" "app" 0 0 [.ok ⟨[], 1⟩]).result = none :=
  ⟨rfl, rfl⟩

end KeyTransparency.Grpcc
