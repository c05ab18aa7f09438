import SocAnalyst.Builtins
import SocAnalyst.Dicts
import SocAnalyst.Quotas

/-!
# The request limit

`RateLimitMiddleware` of `backend/middleware/rate_limit.py`: the requests of each client are
counted in windows of a fixed length, and old counts are dropped when a client opens a window.
-/
namespace SocAnalyst.RequestLimits
open SocAnalyst.Builtins SocAnalyst.Dicts SocAnalyst.Quotas

/-- `rate_limit_requests` and `rate_limit_window_seconds`, as the settings check them. -/
structure Limits where
  maxRequests : Nat
  windowSeconds : Nat
  valid : 1 ≤ maxRequests ∧ 1 ≤ windowSeconds

/-- The client's host if it is known, and `int(time.time())` when the request came. -/
structure Request where
  client : Option Text
  now : Nat

/-- The counts of a client and a window, by the window's number. -/
abbrev Hits := Dict (Text × Nat) Nat

/-- The dictionary without the windows before one. -/
def evictOldBuckets (hits : Hits) (currentBucket : Nat) : Hits where
  entries := hits.entries.filter fun entry => ¬ entry.1.2 < currentBucket
  distinct := hits.distinct.sublist (List.filter_sublist.map _)

section
variable (limits : Limits)

def bucket (request : Request) : Nat := request.now / limits.windowSeconds

def hitKey (request : Request) : Text × Nat := (request.client.getD (lit "unknown"),bucket limits request)

/-- Whether a request is passed on, and the counts after it. -/
def dispatch (hits : Hits) (request : Request) : Bool × Hits :=
  let count := (hits.get? (hitKey limits request)).getD 0 + 1
  let counted := hits.set (hitKey limits request) count
  (count ≤ limits.maxRequests,if count = 1 then evictOldBuckets counted (bucket limits request) else counted)

/-- The requests that are passed on, and the counts after all of them. -/
def serve (hits : Hits) : List Request → List Request × Hits
  | [] => ([],hits)
  | request :: rest =>
    let (passed,later) := dispatch limits hits request
    let (others,final) := serve later rest
    (if passed then request :: others else others,final)

/-! ### What the counts hold -/

theorem get?_evictOldBuckets (hits : Hits) (current : Nat) (k : Text × Nat) :
    (evictOldBuckets hits current).get? k = if k.2 < current then none else hits.get? k := by
  ext value
  rw [Dict.get?_eq_some]
  simp only [evictOldBuckets,List.mem_filter]
  split_ifs with old
  · simp [old]
  · rw [Dict.get?_eq_some]
    simp [old]

/-- The counts are those of the newest window, and every client in it has one. -/
structure Counts (seen : List Request) (hits : Hits) : Prop where
  held : ∀ k, (∀ request ∈ seen, bucket limits request ≤ k.2) → (hits.get? k).getD 0 = spent (hitKey limits) seen k
  keys : ∀ k, (hits.get? k).isSome = true ↔ (∃ request ∈ seen, hitKey limits request = k) ∧ ∀ request ∈ seen, bucket limits request ≤ k.2

variable {limits} {seen : List Request} {hits : Hits} {request : Request}

theorem counts_empty : Counts limits [] Dict.empty where
  held _ _ := rfl
  keys _ := by simp

/-- The clock has not gone back. -/
def Later (seen : List Request) (request : Request) : Prop := ∀ earlier ∈ seen, earlier.now ≤ request.now

theorem Later.bucket (later : Later seen request) : ∀ earlier ∈ seen, bucket limits earlier ≤ bucket limits request :=
  fun earlier listed => Nat.div_le_div_right (later earlier listed)

theorem Counts.count (counts : Counts limits seen hits) (later : Later seen request) :
    (hits.get? (hitKey limits request)).getD 0 = spent (hitKey limits) seen (hitKey limits request) :=
  counts.held _ later.bucket

theorem Counts.passed (counts : Counts limits seen hits) (later : Later seen request) :
    (dispatch limits hits request).1 = true ↔ spent (hitKey limits) seen (hitKey limits request) < limits.maxRequests := by
  rw [dispatch,counts.count later]
  exact decide_eq_true_iff.trans Nat.succ_le_iff

theorem get?_dispatch (k : Text × Nat) : (dispatch limits hits request).2.get? k =
    if (hits.get? (hitKey limits request)).getD 0 = 0 ∧ k.2 < bucket limits request then none
    else if k = hitKey limits request then some ((hits.get? (hitKey limits request)).getD 0 + 1) else hits.get? k := by
  simp only [dispatch,Nat.add_eq_right]
  by_cases opens : (hits.get? (hitKey limits request)).getD 0 = 0
  · rw [if_pos opens,get?_evictOldBuckets,Dict.get?_set]
    simp [opens]
  · rw [if_neg opens,Dict.get?_set]
    simp [opens]

/-- A window that has not been opened holds no count of the client. -/
theorem Counts.reopened (counts : Counts limits seen hits) (later : Later seen request) {k : Text × Nat}
    (kept : (hits.get? k).isSome = true) (counted : (hits.get? (hitKey limits request)).getD 0 ≠ 0) : bucket limits request ≤ k.2 := by
  rw [counts.count later,spent,← Nat.pos_iff_ne_zero,List.countP_pos_iff] at counted
  obtain ⟨earlier,listed,same⟩ := counted
  have again : bucket limits earlier = bucket limits request := congrArg Prod.snd (of_decide_eq_true same)
  exact again ▸ ((counts.keys k).mp kept).2 earlier listed

theorem Counts.dispatch (counts : Counts limits seen hits) (later : Later seen request) :
    Counts limits (seen ++ [request]) (dispatch limits hits request).2 where
  held k newest := by
    simp only [List.forall_mem_append,List.forall_mem_singleton] at newest
    rw [get?_dispatch,if_neg (fun old => absurd old.2 (not_lt.mpr newest.2)),spent_append,spent_single]
    by_cases own : k = hitKey limits request
    · rw [if_pos own,if_pos own.symm,own,Option.getD_some,counts.count later]
    · rw [if_neg own,if_neg (fun same => own same.symm),counts.held k newest.1,Nat.add_zero]
  keys k := by
    rw [get?_dispatch,List.forall_mem_append,List.forall_mem_singleton]
    simp only [List.mem_append,List.mem_singleton]
    constructor
    · intro kept
      split_ifs at kept with old own
      · simp at kept
      · exact ⟨⟨request,.inr rfl,own.symm⟩,own ▸ later.bucket,own ▸ le_rfl⟩
      · obtain ⟨⟨earlier,listed,same⟩,newest⟩ := (counts.keys k).mp kept
        refine ⟨⟨earlier,.inl listed,same⟩,newest,?_⟩
        by_cases opens : (hits.get? (hitKey limits request)).getD 0 = 0
        · exact not_lt.mp fun before => old ⟨opens,before⟩
        · exact counts.reopened later kept opens
    · rintro ⟨⟨other,listed,same⟩,newest,upto⟩
      rw [if_neg (fun old => absurd old.2 (not_lt.mpr upto))]
      split_ifs with own
      · rfl
      · rcases listed with earlier | rfl
        · exact (counts.keys k).mpr ⟨⟨other,earlier,same⟩,newest⟩
        · exact absurd same.symm own

/-! ### What any number of requests get -/

/-- The clock never goes back. -/
def Ordered (requests : List Request) : Prop := requests.Pairwise fun earlier later => earlier.now ≤ later.now

/-- The limiter grants each client and window a quota. -/
theorem serve_granted {requests : List Request} (counts : Counts limits seen hits) (ordered : Ordered (seen ++ requests)) :
    (serve limits hits requests).1 = granted (hitKey limits) limits.maxRequests seen requests ∧
      Counts limits (seen ++ requests) (serve limits hits requests).2 := by
  induction requests generalizing seen hits with
  | nil => exact ⟨rfl,by simpa [serve] using counts⟩
  | cons request rest ih =>
    have later : Later seen request := fun earlier listed => (List.pairwise_append.mp ordered).2.2 earlier listed request (by simp)
    have onward : Ordered ((seen ++ [request]) ++ rest) := by simpa using ordered
    obtain ⟨same,held⟩ := ih (counts.dispatch later) onward
    refine ⟨?_,by simpa [serve] using held⟩
    simp only [serve,granted,same]
    exact if_congr (counts.passed later) rfl rfl

variable (limits) in
/-- A request of a client, from one second on and for the length of a window. -/
def During (client : Option Text) (start : Nat) (request : Request) : Bool :=
  request.client = client ∧ start ≤ request.now ∧ request.now < start + limits.windowSeconds

/-- When the clock never goes back: of the requests of a client in a window of the limiter
    the first are passed on, up to the limit; in no time of a window's length are more than
    twice as many passed on; the requests of other clients make no difference; and no count
    is kept but of the clients in the newest window. -/
theorem limits_kept (limits : Limits) (requests : List Request) (ordered : Ordered requests) :
    let passed := (serve limits Dict.empty requests).1
    let final := (serve limits Dict.empty requests).2
    (∀ k, passed.filter (fun request => hitKey limits request = k) =
      (requests.filter fun request => hitKey limits request = k).take limits.maxRequests) ∧
    (∀ client start, passed.countP (During limits client start) ≤ 2 * limits.maxRequests) ∧
    (∀ host, passed.filter (fun request => (request.client.getD (lit "unknown")) = host) =
      (serve limits Dict.empty (requests.filter fun request => (request.client.getD (lit "unknown")) = host)).1) ∧
    ∀ k, k ∈ final.keys ↔ (∃ request ∈ requests, hitKey limits request = k) ∧ ∀ request ∈ requests, bucket limits request ≤ k.2 := by
  obtain ⟨same,held⟩ := serve_granted counts_empty ordered
  have host_keyed : ∀ host (first second : Request), hitKey limits first = hitKey limits second →
      decide (first.client.getD (lit "unknown") = host) = decide (second.client.getD (lit "unknown") = host) := by
    intro host first second equal
    rw [show first.client.getD (lit "unknown") = second.client.getD (lit "unknown") from congrArg Prod.fst equal]
  refine ⟨fun k => ?_,fun client start => ?_,fun host => ?_,fun k => ?_⟩
  · rw [same,filter_granted]
    rfl
  · let first := start / limits.windowSeconds
    let keys : Finset (Text × Nat) := {(client.getD (lit "unknown"),first),(client.getD (lit "unknown"),first + 1)}
    have two : keys.card ≤ 2 := Finset.card_le_two
    have within : ∀ request, During limits client start request = true → hitKey limits request ∈ keys := by
      intro request during
      simp only [During,decide_eq_true_eq,Bool.decide_and,Bool.and_eq_true] at during
      obtain ⟨rfl,since,before⟩ := during
      have low : first ≤ bucket limits request := Nat.div_le_div_right since
      have high : bucket limits request < first + 2 := by
        have spills : start < first * limits.windowSeconds + limits.windowSeconds := Nat.lt_div_mul_add limits.valid.2
        rw [bucket,Nat.div_lt_iff_lt_mul limits.valid.2,Nat.add_mul]
        omega
      simp only [keys,hitKey,Finset.mem_insert,Finset.mem_singleton,Prod.mk.injEq,true_and]
      omega
    rw [same]
    exact (countP_granted_le _ _ keys within requests).trans (Nat.mul_le_mul_right _ two)
  · have part : Ordered (requests.filter fun request => (request.client.getD (lit "unknown")) = host) := ordered.filter _
    rw [same,granted_alone _ _ (host_keyed host),(serve_granted counts_empty part).1]
    rfl
  · rw [← Dict.get?_isSome]
    exact held.keys k

theorem tight_valid : 1 ≤ 1 ∧ 1 ≤ 10 := by decide

/-- One request in ten seconds. -/
def tight : Limits := ⟨1,10,tight_valid⟩

def twoClients : List Request := [⟨some (lit "10.0.0.1"),100⟩,⟨none,101⟩,⟨some (lit "10.0.0.1"),109⟩,⟨some (lit "10.0.0.1"),110⟩]

/-- A client gets its first request through and the one that opens the next window. -/
theorem two_clients_limited : ((serve tight Dict.empty twoClients).1.map (·.now)) = [100,101,110] ∧
    ∀ client start, (serve tight Dict.empty twoClients).1.countP (During tight client start) ≤ 2 * tight.maxRequests :=
  ⟨by decide,(limits_kept tight twoClients (by unfold Ordered twoClients; decide)).2.1⟩

end
end SocAnalyst.RequestLimits
