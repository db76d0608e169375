import Mathlib.Algebra.Order.Ring.Rat
import GhgTool.AuthRouter
import GhgTool.SlidingWindow

/-!
# The rate limit

`_InMemorySlidingWindow` keeps a deque of times for every key. `RateLimitMiddleware` charges a
request to the user that its bearer token names, read without checking the signature, and to the
client address where no user is named.
-/

namespace GhgTool.RateLimit

/-! ## The in-memory window -/

/-- `_InMemorySlidingWindow`; a key that is not in the dictionary has the empty bucket. -/
structure InMemorySlidingWindow (τ : Type*) where
  window : τ
  limit : ℕ
  buckets : String → List τ := fun _ => []

/-- A call of `is_allowed`, at the time that `time.monotonic` reads. -/
structure Call (τ : Type*) where
  key : String
  time : τ
  deriving DecidableEq, Repr

variable {τ : Type*} [AddCommGroup τ] [LinearOrder τ]

def InMemorySlidingWindow.isAllowed (w : InMemorySlidingWindow τ) (key : String) (now : τ) :
    Bool × InMemorySlidingWindow τ :=
  let cutoff := now - w.window
  let bucket := (w.buckets key).dropWhile fun t => decide (t < cutoff)
  if w.limit ≤ bucket.length then
    (false, { w with buckets := Function.update w.buckets key bucket })
  else
    (true, { w with buckets := Function.update w.buckets key (bucket ++ [now]) })

def callStep (w : InMemorySlidingWindow τ) (c : Call τ) : Bool × InMemorySlidingWindow τ :=
  w.isAllowed c.key c.time

/-- The calls made on a fresh window, each with its answer. -/
def history (W : τ) (limit : ℕ) (calls : List (Call τ)) : List (Call τ × Bool) :=
  answers callStep { window := W, limit := limit } calls

/-- How many calls of a key were answered True at a time in `I`. -/
def answeredTrue (k : String) (I : τ → Bool) (h : List (Call τ × Bool)) : ℕ :=
  h.countP fun a => decide (a.1.key = k) && a.2 && I a.1.time

/-! ## Each bucket is a sliding window -/

variable (W : τ) (limit : ℕ) (calls : List (Call τ)) (k : String)

/-- The window of one key. -/
def bucketStep (queue : List τ) (c : Call τ) : Bool × List τ :=
  admitPruned W limit queue c.time

theorem callStep_eq (s : String → List τ) (c : Call τ) :
    (callStep ⟨W, limit, s⟩ c).1 = (keyedStep (bucketStep W limit) Call.key s c).1 ∧
      (callStep ⟨W, limit, s⟩ c).2 =
        ⟨W, limit, (keyedStep (bucketStep W limit) Call.key s c).2⟩ := by
  unfold callStep InMemorySlidingWindow.isAllowed keyedStep bucketStep admitPruned prune
  dsimp only
  split <;> exact ⟨rfl, rfl⟩

theorem history_eq_keyed :
    history W limit calls =
      answers (keyedStep (bucketStep W limit) Call.key) (fun _ => []) calls := by
  refine (answers_eq_of_simulation (R := fun _ w s => w = ⟨W, limit, s⟩) callStep rfl ?_).1
  intro _ c w s _ hw
  subst hw
  exact callStep_eq W limit s c

theorem history_filter_eq :
    (history W limit calls).filter (fun a => decide (a.1.key = k)) =
      answers (bucketStep W limit) [] (calls.filter fun c => decide (c.key = k)) := by
  rw [history_eq_keyed]
  exact answers_keyedStep (bucketStep W limit) Call.key (fun _ => []) calls k

variable {calls} in
theorem mem_history {a : Call τ × Bool} (ha : a ∈ history W limit calls) :
    a.1 ∈ calls := by
  obtain ⟨i, hi⟩ := List.mem_iff_getElem?.mp ha
  rw [history, answers_getElem?] at hi
  obtain ⟨c, hc, rfl⟩ := Option.map_eq_some_iff.mp hi
  exact List.mem_of_getElem? hc

/-- The calls of a key are answered as if no others were made. -/
theorem history_filter_key :
    (history W limit calls).filter (fun a => decide (a.1.key = k)) =
      history W limit (calls.filter fun c => decide (c.key = k)) := by
  have hall : ∀ a ∈ history W limit (calls.filter fun c => decide (c.key = k)),
      decide (a.1.key = k) = true := by
    intro a ha
    simpa using List.of_mem_filter (mem_history W limit ha)
  rw [history_filter_eq, ← List.filter_eq_self.mpr hall, history_filter_eq, List.filter_filter]
  simp

omit [AddCommGroup τ] [LinearOrder τ] in
theorem answeredTrue_eq (I : τ → Bool) (h : List (Call τ × Bool)) :
    answeredTrue k I h =
      ((admittedAt Call.time (h.filter fun a => decide (a.1.key = k))).filter I).length := by
  unfold answeredTrue admittedAt
  rw [List.countP_eq_length_filter, List.filter_map, List.length_map, List.filter_filter,
    List.filter_filter]
  congr 1
  apply List.filter_congr
  intro a _
  cases a.2 <;> simp [Bool.and_comm]

variable [IsOrderedAddMonoid τ] {calls}

theorem history_filter_eq_admitEvent (hcalls : calls.Pairwise fun a b => a.time ≤ b.time) :
    (history W limit calls).filter (fun a => decide (a.1.key = k)) =
      answers (admitEvent W limit Call.time) [] (calls.filter fun c => decide (c.key = k)) := by
  rw [history_filter_eq]
  exact answers_admitPruned limit Call.time (hcalls.filter _)

theorem answeredTrue_le (hcalls : calls.Pairwise fun a b => a.time ≤ b.time) {I : τ → Bool}
    (hI : ∀ s t, I s = true → I t = true → t - W ≤ s) :
    answeredTrue k I (history W limit calls) ≤ limit := by
  rw [answeredTrue_eq, history_filter_eq_admitEvent W limit k hcalls]
  exact admittedAt_filter_length_le W limit Call.time _ hI

/-- The times from `a` on, less than `W` later. -/
def fromUntil (a W t : τ) : Bool := decide (a ≤ t ∧ t < a + W)

/-- The times after `a`, at most `W` later. -/
def afterUpTo (a W t : τ) : Bool := decide (a < t ∧ t ≤ a + W)

/-- The `W` up to `now`. -/
def preceding (now W t : τ) : Bool := decide (now - W ≤ t ∧ t ≤ now)

theorem fromUntil_within {a s t : τ} (hs : fromUntil a W s = true)
    (ht : fromUntil a W t = true) : t - W ≤ s := by
  simp only [fromUntil, decide_eq_true_eq] at hs ht
  exact (sub_lt_iff_lt_add.mpr ht.2).le.trans hs.1

theorem afterUpTo_within {a s t : τ} (hs : afterUpTo a W s = true)
    (ht : afterUpTo a W t = true) : t - W ≤ s := by
  simp only [afterUpTo, decide_eq_true_eq] at hs ht
  exact (sub_le_iff_le_add.mpr ht.2).trans hs.1.le

theorem preceding_within {now s t : τ} (hs : preceding now W s = true)
    (ht : preceding now W t = true) : t - W ≤ s := by
  simp only [preceding, decide_eq_true_eq] at hs ht
  exact (sub_le_sub_right ht.2 W).trans hs.1

theorem answeredTrue_eq_counted {past : List (Call τ × Bool)} {now : τ}
    (hpast : ∀ a ∈ past, a.1.time ≤ now) :
    answeredTrue k (preceding now W) past =
      (counted W now
        (admittedAt Call.time (past.filter fun a => decide (a.1.key = k)))).length := by
  rw [answeredTrue_eq]
  congr 1
  apply List.filter_congr
  intro t ht
  obtain ⟨a, ha, rfl⟩ := List.mem_map.mp ht
  have hle : a.1.time ≤ now := hpast a (List.mem_of_mem_filter (List.mem_of_mem_filter ha))
  simp [preceding, hle]

theorem limit_le_of_refused (hcalls : calls.Pairwise fun a b => a.time ≤ b.time) {i : ℕ}
    {c : Call τ} (hi : (history W limit calls)[i]? = some (c, false)) :
    limit ≤ answeredTrue c.key (preceding c.time W) ((history W limit calls).take i) := by
  rw [history, answers_getElem?] at hi
  obtain ⟨c', hc', heq⟩ := Option.map_eq_some_iff.mp hi
  obtain ⟨rfl, hfalse⟩ := Prod.mk.inj heq
  have hsplit : calls.take (i + 1) = calls.take i ++ [c'] := by
    rw [List.take_add_one, hc']
    rfl
  have hsorted : (calls.take i ++ [c']).Pairwise fun a b => a.time ≤ b.time :=
    hsplit ▸ hcalls.sublist (List.take_sublist _ _)
  have hpast : ∀ a ∈ history W limit (calls.take i), a.1.time ≤ c'.time := by
    intro a ha
    exact (List.pairwise_append.mp hsorted).2.2 _ (mem_history W limit ha) c' (by simp)
  -- The history up to and with the call, on its key and on the log.
  have hkey := history_filter_eq_admitEvent W limit c'.key hsorted
  rw [history, answers_snoc, hfalse, List.filter_append, List.filter_append,
    List.filter_cons_of_pos (by simp), List.filter_cons_of_pos (by simp), List.filter_nil,
    List.filter_nil, answers_snoc] at hkey
  have hlast := (List.append_inj' hkey rfl).2
  have hanswer := (admitEvent_eq_false_iff W limit Call.time _ c').mp
    (Prod.mk.inj (List.singleton_inj.mp hlast)).2.symm
  rw [history, answers_take]
  rw [← history, answeredTrue_eq_counted W c'.key hpast,
    history_filter_eq_admitEvent W limit c'.key (List.pairwise_append.mp hsorted).1]
  exact hanswer

/-- Nobody is refused where no key makes more calls than the limit. -/
theorem history_all_true (hcalls : calls.Pairwise fun a b => a.time ≤ b.time)
    (hfew : ∀ k, calls.countP (fun c => decide (c.key = k)) ≤ limit) :
    ∀ a ∈ history W limit calls, a.2 = true := by
  intro a ha
  obtain ⟨i, hi⟩ := List.mem_iff_getElem?.mp ha
  cases ha2 : a.2 with
  | true => rfl
  | false =>
      have hfull := limit_le_of_refused W limit (c := a.1) hcalls (by rw [hi, ← ha2])
      have hc : calls[i]? = some a.1 := by
        rw [history, answers_getElem?] at hi
        obtain ⟨c, hc, hca⟩ := Option.map_eq_some_iff.mp hi
        rw [hc, ← hca]
      rw [history, answers_take, ← history] at hfull
      have hpast : answeredTrue a.1.key (preceding a.1.time W) (history W limit (calls.take i)) ≤
          (calls.take i).countP fun c => decide (c.key = a.1.key) := by
        have hmap : (history W limit (calls.take i)).map Prod.fst = calls.take i :=
          answers_map_fst callStep _ _
        calc _ ≤ (history W limit (calls.take i)).countP fun b => decide (b.1.key = a.1.key) := by
              apply List.countP_mono_left
              intro b _ hb
              simp only [Bool.and_eq_true] at hb
              exact hb.1.1
          _ = _ := by
              conv_rhs => rw [← hmap, List.countP_map]
              rfl
      have hnext : (calls.take (i + 1)).countP (fun c => decide (c.key = a.1.key)) =
          (calls.take i).countP (fun c => decide (c.key = a.1.key)) + 1 := by
        rw [List.take_add_one, hc, List.countP_append]
        simp
      have hall := (List.take_sublist (i + 1) calls).countP_le
        (p := fun c => decide (c.key = a.1.key))
      have := hfew a.1.key
      omega

/-- The sliding-window bound, for calls in order of time. -/
theorem sliding_window_bound (hcalls : calls.Pairwise fun a b => a.time ≤ b.time) :
    (∀ k a, answeredTrue k (fromUntil a W) (history W limit calls) ≤ limit ∧
      answeredTrue k (afterUpTo a W) (history W limit calls) ≤ limit) ∧
    (∀ i c, (history W limit calls)[i]? = some (c, false) →
      answeredTrue c.key (preceding c.time W) ((history W limit calls).take i) = limit) ∧
    ∀ k, (history W limit calls).filter (fun a => decide (a.1.key = k)) =
      history W limit (calls.filter fun c => decide (c.key = k)) := by
  refine ⟨?_, ?_, ?_⟩
  · intro k a
    exact ⟨answeredTrue_le W limit k hcalls fun s t hs ht => fromUntil_within W hs ht,
      answeredTrue_le W limit k hcalls fun s t hs ht => afterUpTo_within W hs ht⟩
  · intro i c hi
    apply le_antisymm
    · rw [history, answers_take]
      exact answeredTrue_le W limit c.key (hcalls.sublist (List.take_sublist _ _))
        fun s t hs ht => preceding_within W hs ht
    · exact limit_le_of_refused W limit hcalls hi
  · intro k
    exact history_filter_key W limit calls k

/-- A window of 60 s that admits one call, asked twice by one key within a second. -/
theorem sliding_window_bound_two_calls :
    ([⟨"user:u1", 0⟩, ⟨"user:u1", 1⟩] : List (Call ℤ)).Pairwise (fun a b => a.time ≤ b.time) ∧
      answeredTrue "user:u1" (fromUntil (0 : ℤ) 60)
        (history (60 : ℤ) 1 [⟨"user:u1", 0⟩, ⟨"user:u1", 1⟩]) ≤ 1 :=
  ⟨by decide, ((sliding_window_bound (60 : ℤ) 1 (by decide)).1 "user:u1" 0).1⟩

/-! ## The middleware -/

/-- What the middleware reads of a request: the path, what the authentication dependency has left
in `request.state`, the `Authorization` header (empty when absent), the client and the clock. -/
structure Request where
  path : String
  stateUserSub : Option String := none
  authorization : String := ""
  clientHost : Option String
  time : ℚ
  deriving DecidableEq, Repr

/-- PyJWT on a token: `str(claims.get("sub", ""))` of the payload, if it decodes, and whether
`decode_token` accepts the signature. -/
structure Jwt where
  unverifiedSub : String → Option String
  signatureHolds : String → Bool

def exemptPrefixes : List String := ["/healthz", "/readyz", "/openapi", "/docs"]

def Request.exempt (r : Request) : Bool :=
  exemptPrefixes.any fun p => decide (p.toList <+: r.path.toList)

/-- The user that `_extract_rate_key` charges the request to, if it names one. -/
def namedUser (jwt : Jwt) (r : Request) : Option String :=
  match r.stateUserSub.filter (· ≠ "") with
  | some sub => some sub
  | none => ((bearerToken r.authorization).bind jwt.unverifiedSub).filter (· ≠ "")

def extractRateKey (jwt : Jwt) (r : Request) : String :=
  match namedUser jwt r with
  | some sub => "user:" ++ sub
  | none => "ip:" ++ r.clientHost.getD "unknown"

def rateLimitRequests : ℕ := 100

def rateLimitWindowS : ℚ := 60

/-- `_counter`, on the in-memory backend. -/
def generalCounter : InMemorySlidingWindow ℚ :=
  { window := rateLimitWindowS, limit := rateLimitRequests }

def tooManyRequests : Problem :=
  { status := 429, detail := "Rate limit exceeded: 100 requests per 60 seconds." }

/-- `RateLimitMiddleware.dispatch`: the request is passed on, or refused here. -/
def dispatch (jwt : Jwt) (counter : InMemorySlidingWindow ℚ) (r : Request) :
    Except Problem Unit × InMemorySlidingWindow ℚ :=
  if r.exempt then (.ok (), counter)
  else
    let (allowed, counter) := counter.isAllowed (extractRateKey jwt r) r.time
    if allowed then (.ok (), counter) else (.error tooManyRequests, counter)

/-- The requests of a run of the middleware, each with what became of it. -/
def traffic (jwt : Jwt) (rs : List Request) : List (Request × Except Problem Unit) :=
  answers (dispatch jwt) generalCounter rs

/-- How many requests of a kind were let through at a time in `I`. -/
def letThrough (P : Request → Bool) (I : ℚ → Bool) (t : List (Request × Except Problem Unit)) : ℕ :=
  t.countP fun a => P a.1 && a.2.isOk && I a.1.time

def Request.signed (jwt : Jwt) (r : Request) : Bool :=
  (bearerToken r.authorization).any jwt.signatureHolds

/-- A request that is charged to a key. -/
def charged (jwt : Jwt) (k : String) (r : Request) : Bool :=
  !r.exempt && decide (extractRateKey jwt r = k)

def charge (jwt : Jwt) (r : Request) : Call ℚ :=
  { key := extractRateKey jwt r, time := r.time }

variable {jwt : Jwt} {rs : List Request}

theorem dispatch_of_exempt {r : Request} (h : r.exempt = true) (w : InMemorySlidingWindow ℚ) :
    dispatch jwt w r = (.ok (), w) := by
  simp [dispatch, h]

theorem dispatch_of_not_exempt (jwt : Jwt) {r : Request} (h : r.exempt = false)
    (w : InMemorySlidingWindow ℚ) :
    (dispatch jwt w r).1.isOk = (callStep w (charge jwt r)).1 ∧
      (dispatch jwt w r).2 = (callStep w (charge jwt r)).2 := by
  unfold dispatch callStep charge
  rw [h]
  dsimp only
  cases (w.isAllowed (extractRateKey jwt r) r.time).1 <;> exact ⟨rfl, rfl⟩

/-- The middleware is the window on what its requests charge. -/
theorem traffic_charged :
    ((traffic jwt rs).filter fun a => !a.1.exempt).map (fun a => (charge jwt a.1, a.2.isOk)) =
      history rateLimitWindowS rateLimitRequests
        ((rs.filter fun r => !r.exempt).map (charge jwt)) := by
  unfold traffic history
  change _ = answers callStep generalCounter _
  generalize generalCounter = w
  induction rs generalizing w with
  | nil => rfl
  | cons r rs ih =>
      cases h : r.exempt with
      | true =>
          rw [answers, dispatch_of_exempt h]
          simpa [h] using ih w
      | false =>
          obtain ⟨hanswer, hnext⟩ := dispatch_of_not_exempt jwt h w
          rw [answers, hnext]
          simpa [h, hanswer, answers] using ih (callStep w (charge jwt r)).2

theorem letThrough_le_of_charged (hrs : rs.Pairwise fun a b => a.time ≤ b.time) {k : String}
    {P : Request → Bool} (hP : ∀ r, P r = true → charged jwt k r = true) (a : ℚ) :
    letThrough P (fromUntil a rateLimitWindowS) (traffic jwt rs) ≤ rateLimitRequests := by
  have hcalls : ((rs.filter fun r => !r.exempt).map (charge jwt)).Pairwise
      fun a b => a.time ≤ b.time :=
    List.pairwise_map.mpr (hrs.filter _)
  refine le_trans ?_ (answeredTrue_le rateLimitWindowS rateLimitRequests k hcalls
    fun s t hs ht => fromUntil_within rateLimitWindowS (a := a) hs ht)
  rw [← traffic_charged, answeredTrue, List.countP_map, List.countP_filter]
  apply List.countP_mono_left
  intro b _ hb
  simp only [Bool.and_eq_true] at hb
  have hcharged := hP b.1 hb.1.1
  simp only [charged, Bool.and_eq_true] at hcharged
  simp [charge, hb.1.2, hb.2, hcharged.1, of_decide_eq_true hcharged.2]

/-- Two windows that agree on what they hold for a key. -/
structure SameBucket (k : String) (w w' : InMemorySlidingWindow ℚ) : Prop where
  window : w.window = w'.window
  limit : w.limit = w'.limit
  bucket : w.buckets k = w'.buckets k

theorem SameBucket.step {k : String} {w w' : InMemorySlidingWindow ℚ} (h : SameBucket k w w')
    (now : ℚ) :
    (w.isAllowed k now).1 = (w'.isAllowed k now).1 ∧
      SameBucket k (w.isAllowed k now).2 (w'.isAllowed k now).2 := by
  unfold InMemorySlidingWindow.isAllowed
  rw [h.window, h.limit, h.bucket]
  dsimp only
  split
  · exact ⟨rfl, rfl, rfl, by simp⟩
  · exact ⟨rfl, rfl, rfl, by simp⟩

theorem SameBucket.skip {k key : String} {w w' : InMemorySlidingWindow ℚ} (h : SameBucket k w w')
    (hne : key ≠ k) (now : ℚ) : SameBucket k (w.isAllowed key now).2 w' := by
  unfold InMemorySlidingWindow.isAllowed
  dsimp only
  split <;> exact ⟨h.window, h.limit, by simpa [hne.symm] using h.bucket⟩

theorem dispatch_of_charged {k : String} {r : Request} (h : charged jwt k r = true)
    (w : InMemorySlidingWindow ℚ) :
    dispatch jwt w r =
      (if (w.isAllowed k r.time).1 then .ok () else .error tooManyRequests,
        (w.isAllowed k r.time).2) := by
  simp only [charged, Bool.and_eq_true, Bool.not_eq_true', decide_eq_true_eq] at h
  unfold dispatch
  rw [h.1, h.2]
  dsimp only
  cases (w.isAllowed k r.time).1 <;> rfl

theorem SameBucket.dispatch {k : String} {r : Request} (hr : charged jwt k r = false)
    {w w' : InMemorySlidingWindow ℚ} (h : SameBucket k w w') :
    SameBucket k (dispatch jwt w r).2 w' := by
  cases hexempt : r.exempt with
  | true => rwa [dispatch_of_exempt hexempt]
  | false =>
      rw [(dispatch_of_not_exempt jwt hexempt w).2]
      apply h.skip
      intro hkey
      have hne : ¬ extractRateKey jwt r = k := by simpa [charged, hexempt] using hr
      exact hne hkey

/-- The requests charged to a key are answered as if no others had been sent. -/
theorem traffic_filter_charged (jwt : Jwt) (rs : List Request) (k : String) :
    (traffic jwt rs).filter (fun a => charged jwt k a.1) =
      traffic jwt (rs.filter fun r => charged jwt k r) := by
  unfold traffic
  suffices h : ∀ w w', SameBucket k w w' →
      (answers (dispatch jwt) w rs).filter (fun a => charged jwt k a.1) =
        answers (dispatch jwt) w' (rs.filter fun r => charged jwt k r) from
    h generalCounter generalCounter ⟨rfl, rfl, rfl⟩
  intro w w' hw
  induction rs generalizing w w' with
  | nil => rfl
  | cons r rs ih =>
      rw [answers]
      cases hr : charged jwt k r with
      | true =>
          obtain ⟨hanswer, hnext⟩ := hw.step r.time
          rw [List.filter_cons_of_pos (by simpa using hr),
            List.filter_cons_of_pos (by simpa using hr), answers, dispatch_of_charged hr,
            dispatch_of_charged hr, hanswer, ih _ _ hnext]
      | false =>
          rw [List.filter_cons_of_neg (by simpa using hr),
            List.filter_cons_of_neg (by simpa using hr)]
          exact ih _ _ (hw.dispatch hr)

/-- Nobody is refused where no key is charged more requests than the limit. -/
theorem traffic_all_ok (jwt : Jwt) (rs : List Request)
    (hrs : rs.Pairwise fun a b => a.time ≤ b.time)
    (hfew : ∀ k, rs.countP (charged jwt k) ≤ rateLimitRequests) :
    ∀ a ∈ traffic jwt rs, a.1.exempt = false → a.2.isOk = true := by
  intro a ha hexempt
  have hcalls : ((rs.filter fun r => !r.exempt).map (charge jwt)).Pairwise
      fun a b => a.time ≤ b.time :=
    List.pairwise_map.mpr (hrs.filter _)
  have hcounts : ∀ k, ((rs.filter fun r => !r.exempt).map (charge jwt)).countP
      (fun c => decide (c.key = k)) ≤ rateLimitRequests := by
    intro k
    rw [List.countP_map, List.countP_filter]
    refine le_trans (le_of_eq ?_) (hfew k)
    apply List.countP_congr
    intro r _
    simp only [charged, charge, Function.comp_apply, Bool.and_comm]
    exact Iff.rfl
  have hall := history_all_true rateLimitWindowS rateLimitRequests hcalls hcounts
  rw [← traffic_charged] at hall
  exact hall _ (List.mem_map_of_mem (List.mem_filter.mpr ⟨ha, by simp [hexempt]⟩))

theorem charged_of_host {host : String} {r : Request} (hexempt : r.exempt = false)
    (hu : namedUser jwt r = none) (hhost : r.clientHost = some host) :
    charged jwt ("ip:" ++ host) r = true := by
  simp [charged, hexempt, extractRateKey, hu, hhost]

/-- A request that may be charged to a user: not exempt, and naming the user. -/
def names (jwt : Jwt) (u : String) (r : Request) : Bool :=
  !r.exempt && decide (namedUser jwt r = some u)

/-- A request that is charged to its client address: not exempt, and naming nobody. -/
def anonymousFrom (jwt : Jwt) (host : String) (r : Request) : Bool :=
  !r.exempt && decide (namedUser jwt r = none) && decide (r.clientHost = some host)

/-- A user key is no address key, so a user is charged exactly the requests that name them. -/
theorem charged_user_iff (u : String) (r : Request) :
    charged jwt ("user:" ++ u) r = names jwt u r := by
  have hkey : extractRateKey jwt r = "user:" ++ u ↔ namedUser jwt r = some u := by
    unfold extractRateKey
    cases namedUser jwt r with
    | some v => simp
    | none =>
        simp only [reduceCtorEq, iff_false]
        intro h
        have hchars := congrArg String.toList h
        simp at hchars
  simp [charged, names, hkey]

/-- The budgets of the general limit, for requests in order of time: an address is charged what it
sends without naming a user, a user whatever names them. -/
theorem rate_budgets (jwt : Jwt) (hrs : rs.Pairwise fun a b => a.time ≤ b.time) :
    (∀ host a, letThrough (anonymousFrom jwt host) (fromUntil a rateLimitWindowS)
      (traffic jwt rs) ≤ rateLimitRequests) ∧
    (∀ u a, letThrough (names jwt u) (fromUntil a rateLimitWindowS)
      (traffic jwt rs) ≤ rateLimitRequests) ∧
    (∀ u, (traffic jwt rs).filter (fun a => names jwt u a.1) =
      traffic jwt (rs.filter (names jwt u))) ∧
    ∀ a ∈ traffic jwt rs, a.1.exempt = true → a.2 = .ok () := by
  refine ⟨?_, ?_, ?_, ?_⟩
  · intro host a
    apply letThrough_le_of_charged hrs (k := "ip:" ++ host)
    intro r hr
    simp only [anonymousFrom, Bool.and_eq_true, Bool.not_eq_true', decide_eq_true_eq] at hr
    exact charged_of_host hr.1.1 hr.1.2 hr.2
  · intro u a
    apply letThrough_le_of_charged hrs (k := "user:" ++ u)
    intro r hr
    rwa [charged_user_iff]
  · intro u
    have hview := traffic_filter_charged jwt rs ("user:" ++ u)
    simpa only [charged_user_iff] using hview
  · intro a ha hexempt
    obtain ⟨i, hi⟩ := List.mem_iff_getElem?.mp ha
    rw [traffic, answers_getElem?] at hi
    obtain ⟨r, _, rfl⟩ := Option.map_eq_some_iff.mp hi
    exact congrArg Prod.fst (dispatch_of_exempt hexempt _)

/-- Two requests of one address in a second, the second naming a user. -/
theorem rate_budgets_two_requests :
    ([⟨"/api/v1/calc", none, "", some "10.0.0.9", 0⟩,
        ⟨"/api/v1/calc", some "u1", "", some "10.0.0.9", 1⟩] : List Request).Pairwise
        (fun a b => a.time ≤ b.time) ∧
      letThrough (anonymousFrom ⟨fun _ => none, fun _ => false⟩ "10.0.0.9") (fromUntil 0 60)
        (traffic ⟨fun _ => none, fun _ => false⟩
          [⟨"/api/v1/calc", none, "", some "10.0.0.9", 0⟩,
            ⟨"/api/v1/calc", some "u1", "", some "10.0.0.9", 1⟩]) ≤ 100 :=
  ⟨by simp, (rate_budgets ⟨fun _ => none, fun _ => false⟩ (by simp)).1 "10.0.0.9" 0⟩

/-! ## A token that nobody signed -/

/-- A token of user `u1`, signed under the fallback secret of a development environment. -/
def signedToken : String :=
  "eyJhbGciOiJIUzI1NiIsInR5cCI6IkpXVCJ9.eyJzdWIiOiJ1MSIsImV4cCI6NDEwMjQ0NDgwMH0." ++
    "JWczoElw58P1iEwkGuFMg6NuuuU13cnJNTvTPoDxxi8"

/-- The same payload under a made-up signature. -/
def forgedToken : String :=
  "eyJhbGciOiJIUzI1NiIsInR5cCI6IkpXVCJ9.eyJzdWIiOiJ1MSIsImV4cCI6NDEwMjQ0NDgwMH0." ++
    "AAAAAAAAAAAAAAAAAAAAAAAAAAAAAAAAAAAAAAAAAAA"

/-- PyJWT on the two tokens: both payloads name `u1`, one signature holds. -/
def twoTokens : Jwt where
  unverifiedSub token := if token = signedToken ∨ token = forgedToken then some "u1" else none
  signatureHolds token := decide (token = signedToken)

def plainRequest : Request :=
  { path := "/api/v1/calc", clientHost := some "10.0.0.9", time := 0 }

def forgedRequest : Request :=
  { plainRequest with authorization := "Bearer " ++ forgedToken }

def genuineRequest : Request :=
  { plainRequest with
    authorization := "Bearer " ++ signedToken, clientHost := some "10.0.0.1" }

theorem plainRequest_exempt : plainRequest.exempt = false := by decide

theorem forgedRequest_exempt : forgedRequest.exempt = false := plainRequest_exempt

theorem genuineRequest_exempt : genuineRequest.exempt = false := plainRequest_exempt

theorem bearerToken_append (token : String) : bearerToken ("Bearer " ++ token) = some token := by
  have hprefix : "Bearer ".toList <+: ("Bearer " ++ token).toList := by
    rw [String.toList_append]
    exact List.prefix_append _ _
  rw [bearerToken, if_pos hprefix, String.toList_append, List.drop_left' (by rfl),
    String.ofList_toList]

theorem forgedToken_ne : forgedToken ≠ signedToken := by
  unfold forgedToken signedToken
  rw [ne_eq, String.append_right_inj]
  decide

theorem charged_plainRequest (k : String) :
    charged twoTokens k plainRequest = decide ("ip:10.0.0.9" = k) := by
  have huser : namedUser twoTokens plainRequest = none := by
    simp [namedUser, plainRequest, bearerToken]
  have hkey : extractRateKey twoTokens plainRequest = "ip:10.0.0.9" := by
    rw [extractRateKey, huser]
    rfl
  simp [charged, hkey, plainRequest_exempt]

theorem charged_forgedRequest (k : String) :
    charged twoTokens k forgedRequest = decide ("user:u1" = k) := by
  have huser : namedUser twoTokens forgedRequest = some "u1" := by
    simp [namedUser, forgedRequest, plainRequest, bearerToken_append, twoTokens]
  have hkey : extractRateKey twoTokens forgedRequest = "user:u1" := by
    rw [extractRateKey, huser]
    rfl
  simp [charged, hkey, forgedRequest_exempt]

theorem charged_genuineRequest (k : String) :
    charged twoTokens k genuineRequest = decide ("user:u1" = k) := by
  have huser : namedUser twoTokens genuineRequest = some "u1" := by
    simp [namedUser, genuineRequest, plainRequest, bearerToken_append, twoTokens]
  have hkey : extractRateKey twoTokens genuineRequest = "user:u1" := by
    rw [extractRateKey, huser]
    rfl
  simp [charged, hkey, genuineRequest_exempt]

theorem pairwise_of_time_zero {rs : List Request} (h : ∀ r ∈ rs, r.time = 0) :
    rs.Pairwise fun a b => a.time ≤ b.time := by
  apply List.pairwise_of_forall_mem_list
  intro a ha b hb
  rw [h a ha, h b hb]

theorem letThrough_eq_length {rs : List Request} {P : Request → Bool}
    (hrs : ∀ r ∈ rs, r.time = 0 ∧ r.exempt = false ∧ P r = true)
    (hfew : ∀ k, rs.countP (charged twoTokens k) ≤ rateLimitRequests) :
    letThrough P (fromUntil 0 60) (traffic twoTokens rs) = rs.length := by
  have hok := traffic_all_ok twoTokens rs (pairwise_of_time_zero fun r hr => (hrs r hr).1) hfew
  have hlength : (traffic twoTokens rs).length = rs.length := by
    rw [← List.length_map (f := Prod.fst), traffic, answers_map_fst]
  rw [← hlength]
  apply List.countP_eq_length.mpr
  intro a ha
  have hmem : a.1 ∈ rs := by
    rw [← answers_map_fst (dispatch twoTokens) generalCounter rs]
    exact List.mem_map_of_mem ha
  obtain ⟨htime, hexempt, hP⟩ := hrs a.1 hmem
  have htimes : fromUntil (0 : ℚ) 60 a.1.time = true := by
    rw [htime]
    simp [fromUntil]
  rw [hP, hok a ha hexempt, htimes]
  rfl

theorem letThrough_snoc (jwt : Jwt) (P : Request → Bool) (I : ℚ → Bool) (rs : List Request)
    (r : Request) :
    letThrough P I (traffic jwt (rs ++ [r])) = letThrough P I (traffic jwt rs) +
      if (P r && (dispatch jwt (afterAnswers (dispatch jwt) generalCounter rs) r).1.isOk &&
        I r.time) = true then 1 else 0 := by
  rw [traffic, answers_snoc, letThrough, List.countP_append, List.countP_singleton]
  rfl

theorem exists_refused_snoc {jwt : Jwt} {rs : List Request} {r : Request}
    (h : ¬ (dispatch jwt (afterAnswers (dispatch jwt) generalCounter rs) r).1.isOk = true) :
    ∃ a ∈ traffic jwt (rs ++ [r]), a.1 = r ∧ a.2.isOk = false := by
  rw [traffic, answers_snoc]
  exact ⟨_, List.mem_append_right _ (List.mem_singleton_self _), rfl,
    Bool.eq_false_of_not_eq_true h⟩

/-- A hundred forged requests use up the budget of the user they name. -/
theorem genuineRequest_refused :
    ∃ a ∈ traffic twoTokens (List.replicate 100 forgedRequest ++ [genuineRequest]),
      a.1 = genuineRequest ∧ a.2.isOk = false := by
  have hforged : letThrough (charged twoTokens "user:u1") (fromUntil 0 rateLimitWindowS)
      (traffic twoTokens (List.replicate 100 forgedRequest)) =
        (List.replicate 100 forgedRequest).length := by
    apply letThrough_eq_length
    · intro r hr
      rw [List.eq_of_mem_replicate hr, charged_forgedRequest]
      exact ⟨rfl, forgedRequest_exempt, by decide⟩
    · intro k
      rw [List.countP_replicate]
      split <;> simp [rateLimitRequests]
  rw [List.length_replicate] at hforged
  have hbound : letThrough (charged twoTokens "user:u1") (fromUntil 0 rateLimitWindowS)
      (traffic twoTokens (List.replicate 100 forgedRequest ++ [genuineRequest])) ≤
        rateLimitRequests := by
    refine letThrough_le_of_charged (pairwise_of_time_zero ?_) (fun _ h => h) 0
    intro r hr
    rcases List.mem_append.mp hr with hr | hr
    · rw [List.eq_of_mem_replicate hr]
      rfl
    · rw [List.mem_singleton.mp hr]
      rfl
  have hlast : fromUntil 0 rateLimitWindowS genuineRequest.time = true := by
    simp [fromUntil, genuineRequest, plainRequest, rateLimitWindowS]
  rw [letThrough_snoc, hforged, charged_genuineRequest, hlast, rateLimitRequests] at hbound
  apply exists_refused_snoc
  intro hok
  rw [hok, if_pos (by simp)] at hbound
  omega

theorem genuineRequest_alone :
    ∀ a ∈ traffic twoTokens [genuineRequest], a.2.isOk = true := by
  have hok := traffic_all_ok twoTokens [genuineRequest] (by simp) ?_
  · intro a ha
    have hmem : a.1 = genuineRequest := List.mem_singleton.mp <| by
      rw [← answers_map_fst (dispatch twoTokens) generalCounter [genuineRequest]]
      exact List.mem_map_of_mem ha
    exact hok a ha (hmem ▸ genuineRequest_exempt)
  · intro k
    rw [List.countP_singleton]
    split <;> simp [rateLimitRequests]

/-- A forged subject gives an address a second budget, and uses up the one of the user it names. -/
theorem forged_sub_splits_budgets :
    (letThrough (fun r => !r.signed twoTokens && decide (r.clientHost = some "10.0.0.9"))
      (fromUntil 0 60)
      (traffic twoTokens (List.replicate 100 plainRequest ++ [forgedRequest])) = 101) ∧
    (∀ r ∈ List.replicate 100 forgedRequest, r.signed twoTokens = false) ∧
    genuineRequest.signed twoTokens = true ∧
    (∀ a ∈ traffic twoTokens [genuineRequest], a.2.isOk = true) ∧
    ∃ a ∈ traffic twoTokens (List.replicate 100 forgedRequest ++ [genuineRequest]),
      a.1 = genuineRequest ∧ a.2.isOk = false := by
  have hplain : plainRequest.signed twoTokens = false := by
    simp [Request.signed, plainRequest, bearerToken]
  have hforged : forgedRequest.signed twoTokens = false := by
    simp [Request.signed, forgedRequest, plainRequest, bearerToken_append, twoTokens,
      forgedToken_ne]
  have hgenuine : genuineRequest.signed twoTokens = true := by
    simp [Request.signed, genuineRequest, plainRequest, bearerToken_append, twoTokens]
  refine ⟨?_, ?_, hgenuine, ?_, ?_⟩
  · refine (letThrough_eq_length ?_ ?_).trans (by simp)
    · intro r hr
      rcases List.mem_append.mp hr with hr | hr
      · rw [List.eq_of_mem_replicate hr, hplain]
        exact ⟨rfl, plainRequest_exempt, by simp [plainRequest]⟩
      · rw [List.mem_singleton.mp hr, hforged]
        exact ⟨rfl, forgedRequest_exempt, by simp [forgedRequest, plainRequest]⟩
    · intro k
      simp only [List.countP_append, List.countP_replicate, List.countP_singleton,
        charged_plainRequest, charged_forgedRequest, rateLimitRequests]
      by_cases hip : "ip:10.0.0.9" = k
      · subst hip
        decide
      · simp only [hip, decide_false, Bool.false_eq_true, if_false]
        split <;> omega
  · intro r hr
    rw [List.eq_of_mem_replicate hr, hforged]
  · exact genuineRequest_alone
  · exact genuineRequest_refused

end GhgTool.RateLimit
