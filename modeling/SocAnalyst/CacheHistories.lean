import SocAnalyst.Recency
import SocAnalyst.Resilience
import SocAnalyst.Runs

/-!
# Histories of a cache

Any sequence of calls on a cache. The entries are the window of the keys that were set
or successfully read last, and each holds what its key was last set to.
-/
namespace SocAnalyst.CacheHistories
open SocAnalyst.Builtins SocAnalyst.Dicts SocAnalyst.Doubles SocAnalyst.Doubles.Rounding SocAnalyst.Resilience SocAnalyst.Recency
open SocAnalyst.Runs

/-- A call, with the clock reading of those that may take one. -/
inductive Call (α : Type) where
  | get (key : Text) (now : ℚ)
  | getStale (key : Text)
  | set (key : Text) (value : α) (now : ℚ)
  | clear

section
variable {α : Type}

/-- The cache after a call. -/
def perform [Rounding] (cache : TtlCache α) : Call α → TtlCache α
  | .get key now => (cache.get key now).2
  | .getStale _ => cache
  | .set key value now => cache.set key value now
  | .clear => cache.clear

/-- The cache after a history of calls. -/
def after [Rounding] (cache : TtlCache α) (calls : List (Call α)) : TtlCache α := calls.foldl perform cache

/-- The keys that a call sets or successfully reads. -/
def touches (cache : TtlCache α) : Call α → List Text
  | .get key now => if (cache.get key now).1.isSome then [key] else []
  | .getStale _ => []
  | .set key _ _ => [key]
  | .clear => []

/-- The keys set or successfully read in a history, in order. -/
def touched [Rounding] (cache : TtlCache α) : List (Call α) → List Text
  | [] => []
  | call :: rest => touches cache call ++ touched (perform cache call) rest

/-- The distinct other keys set or successfully read since a key itself last was. -/
def othersSince [Rounding] (cache : TtlCache α) (calls : List (Call α)) (key : Text) : List Text :=
  ((touched cache calls).rtakeWhile (· ≠ key)).dedup

/-- The history sets the key to this value at this time; no set of the key and no clear follows. -/
def LastSet (calls : List (Call α)) (key : Text) (value : α) (time : ℚ) : Prop :=
  ∃ before later, calls = before ++ .set key value time :: later ∧ (∀ other at', .set key other at' ∉ later) ∧ .clear ∉ later

/-! ### What was set last -/

section
variable {calls : List (Call α)}

theorem lastSet_snoc {call : Call α} {key : Text} {value : α} {time : ℚ} :
    LastSet (calls ++ [call]) key value time ↔
      call = .set key value time ∨ (LastSet calls key value time ∧ (∀ other at', call ≠ .set key other at') ∧ call ≠ .clear) := by
  rw [LastSet,split_snoc]
  constructor
  · rintro (⟨same,_⟩ | ⟨before,later,whole,unset,uncleared⟩)
    · exact .inl same
    · simp only [List.mem_append,List.mem_singleton,not_or] at unset uncleared
      exact .inr ⟨⟨before,later,whole,fun other at' => (unset other at').1,uncleared.1⟩,
        fun other at' => Ne.symm (unset other at').2,Ne.symm uncleared.2⟩
  · rintro (same | ⟨⟨before,later,whole,unset,uncleared⟩,other,keeps⟩)
    · exact .inl ⟨same,by simp,by simp⟩
    · simp only [List.mem_append,List.mem_singleton,not_or]
      exact .inr ⟨before,later,whole,fun new at' => ⟨unset new at',Ne.symm (other new at')⟩,uncleared,Ne.symm keeps⟩

/-- What was set last is as before when the call neither sets nor clears. -/
theorem lastSet_read {call : Call α} (reads : ∀ key value time, call ≠ .set key value time) (keeps : call ≠ .clear)
    (key : Text) (value : α) (time : ℚ) : LastSet (calls ++ [call]) key value time ↔ LastSet calls key value time := by
  rw [lastSet_snoc]
  exact ⟨fun either => either.elim (fun same => (reads _ _ _ same).elim) And.left,fun last => .inr ⟨last,reads key,keeps⟩⟩

/-- A history has at most one last set of a key. -/
theorem LastSet.unique {key : Text} {value other : α} {time later : ℚ} (last : LastSet calls key value time)
    (again : LastSet calls key other later) : value = other ∧ time = later := by
  induction calls using List.reverseRecOn with
  | nil =>
    obtain ⟨before,rest,whole,_⟩ := last
    simp at whole
  | append_singleton calls call ih =>
    rcases lastSet_snoc.mp last with rfl | ⟨first,unset,_⟩ <;> rcases lastSet_snoc.mp again with same | ⟨second,unset',_⟩
    · cases same
      exact ⟨rfl,rfl⟩
    · exact (unset' _ _ rfl).elim
    · exact (unset _ _ same).elim
    · exact ih first second

/-- A successful read makes its key the newest; another changes nothing. -/
theorem get_cases (cache : TtlCache α) (key : Text) (now : ℚ) :
    cache.get key now = (none,cache) ∨
      ∃ entry, cache.entries.get? key = some entry ∧ now < entry.expiresAt ∧
        cache.get key now = (some entry.value,{ cache with entries := cache.entries.moveToEnd key }) := by
  unfold TtlCache.get
  cases found : cache.entries.get? key with
  | none => exact .inl rfl
  | some entry =>
    by_cases expired : entry.expiresAt ≤ now
    · simp [expired]
    · exact .inr ⟨entry,rfl,not_le.mp expired,by simp [expired]⟩

/-- What a read returns is the live entry of its key. -/
theorem get_eq_some {cache : TtlCache α} {key : Text} {now : ℚ} {value : α} :
    (cache.get key now).1 = some value ↔ ∃ entry, cache.entries.get? key = some entry ∧ now < entry.expiresAt ∧ entry.value = value := by
  unfold TtlCache.get
  cases cache.entries.get? key with
  | none => simp
  | some entry => by_cases expired : entry.expiresAt ≤ now <;> simp [expired,not_lt.mpr,not_le.mp]

end

variable [Rounding]

theorem after_snoc (cache : TtlCache α) (calls : List (Call α)) (call : Call α) :
    after cache (calls ++ [call]) = perform (after cache calls) call := by simp [after]

theorem touched_snoc (cache : TtlCache α) (calls : List (Call α)) (call : Call α) :
    touched cache (calls ++ [call]) = touched cache calls ++ touches (after cache calls) call := by
  induction calls generalizing cache with
  | nil => simp [touched,after]
  | cons first rest ih =>
    rw [List.cons_append,touched,ih,touched,List.append_assoc]
    rfl

/-! ### What the cache remembers -/

/-- The cache agrees with its history: its keys are the most recent ones since some time
    from which on every key not cleared was set, each entry is the last of its key. -/
structure Remembers (start : TtlCache α) (calls : List (Call α)) : Prop where
  ttl : (after start calls).ttl = start.ttl
  room : (after start calls).maxEntries = start.maxEntries
  recent : ∃ early late, touched start calls = early ++ late ∧ (after start calls).entries.keys = window start.maxEntries late ∧
    ∀ key value time, LastSet calls key value time → key ∈ late
  stored : ∀ key entry, (after start calls).entries.get? key = some entry →
    ∃ time, LastSet calls key entry.value time ∧ entry.expiresAt = fl (time + start.ttl)

theorem remembers_nil {start : TtlCache α} (fresh : start.entries = .empty) : Remembers start [] := by
  refine ⟨rfl,rfl,⟨[],[],rfl,by simp [after,fresh,Dict.keys,Dict.empty],?_⟩,?_⟩
  · rintro key value time ⟨before,later,whole,_⟩
    simp at whole
  · intro key entry stored
    simp [after,fresh] at stored

variable {start : TtlCache α} {calls : List (Call α)}

/-- A call that touches nothing and leaves the cache alone. -/
theorem remembers_idle {call : Call α} (known : Remembers start calls) (idle : perform (after start calls) call = after start calls)
    (untouched : touches (after start calls) call = [])
    (same : ∀ key value time, LastSet (calls ++ [call]) key value time ↔ LastSet calls key value time) : Remembers start (calls ++ [call]) := by
  have unchanged : after start (calls ++ [call]) = after start calls := by rw [after_snoc,idle]
  have quiet : touched start (calls ++ [call]) = touched start calls := by rw [touched_snoc,untouched,List.append_nil]
  obtain ⟨ttl,room,recent,stored⟩ := known
  constructor
  · rw [unchanged,ttl]
  · rw [unchanged,room]
  · simpa only [unchanged,quiet,same] using recent
  · simpa only [unchanged,same] using stored

theorem remembers_get (known : Remembers start calls) (key : Text) (now : ℚ) : Remembers start (calls ++ [.get key now]) := by
  have same : ∀ other value time, LastSet (calls ++ [.get key now]) other value time ↔ LastSet calls other value time :=
    lastSet_read (by simp) (by simp)
  rcases get_cases (after start calls) key now with miss | ⟨entry,found,_,hit⟩
  · exact remembers_idle known (by simp [perform,miss]) (by simp [touches,miss]) same
  · obtain ⟨ttl,room,⟨early,late,split,keys,lasting⟩,stored⟩ := known
    have moved : after start (calls ++ [.get key now]) = { after start calls with entries := (after start calls).entries.moveToEnd key } := by
      rw [after_snoc,perform,hit]
    have listed : key ∈ (after start calls).entries.keys := by
      rw [← Dict.get?_isSome,found]
      rfl
    refine ⟨by rw [moved,ttl],by rw [moved,room],⟨early,late ++ [key],?_,?_,?_⟩,?_⟩
    · rw [touched_snoc,split,touches,hit,List.append_assoc]
      rfl
    · rw [moved,Dict.keys_moveToEnd _ listed,keys]
      exact (window_again (keys ▸ listed)).symm
    · intro other value time last
      exact List.mem_append_left _ (lasting other value time ((same other value time).mp last))
    · intro other held found
      rw [moved,Dict.get?_moveToEnd] at found
      simpa only [same] using stored other held found

theorem remembers_set (lives : 0 < start.ttl) (known : Remembers start calls) (key : Text) (value : α) (now : ℚ) :
    Remembers start (calls ++ [.set key value now]) := by
  obtain ⟨ttl,room,⟨early,late,split,keys,lasting⟩,stored⟩ := known
  have alive : ¬ (after start calls).ttl ≤ 0 := by rw [ttl,not_le]; exact lives
  have written : after start (calls ++ [.set key value now]) = (after start calls).set key value now := after_snoc start calls _
  rw [TtlCache.set,if_neg alive] at written
  have held : ∀ other, (((after start calls).entries.set key ⟨value,fl (now + (after start calls).ttl)⟩).moveToEnd key).get? other =
      if other = key then some ⟨value,fl (now + start.ttl)⟩ else (after start calls).entries.get? other := by
    intro other
    rw [Dict.get?_moveToEnd,Dict.get?_set,ttl]
  have order : (((after start calls).entries.set key ⟨value,fl (now + (after start calls).ttl)⟩).moveToEnd key).keys =
      (window start.maxEntries late).filter (· ≠ key) ++ [key] := by
    rw [Dict.keys_set_moveToEnd,keys]
  refine ⟨by rw [written,ttl],by rw [written,room],⟨early,late ++ [key],?_,?_,?_⟩,?_⟩
  · rw [touched_snoc,split,touches,List.append_assoc]
  · rw [written,window_snoc,← order,← room]
    simp only [Dict.keys,Dict.dropOldest,List.map_drop,List.rtake,List.length_map]
  · intro other new time last
    rcases lastSet_snoc.mp last with same | ⟨earlier,_⟩
    · cases same
      simp
    · exact List.mem_append_left _ (lasting other new time earlier)
  · intro other entry found
    rw [written] at found
    have kept := Dict.get?_dropOldest found
    rw [held] at kept
    split_ifs at kept with same
    · cases kept
      exact ⟨now,lastSet_snoc.mpr (.inl (by rw [same])),rfl⟩
    · obtain ⟨time,last,expires⟩ := stored other entry kept
      refine ⟨time,lastSet_snoc.mpr (.inr ⟨last,?_,by simp⟩),expires⟩
      intro new later equal
      exact same (Call.set.inj equal).1.symm

theorem remembers_clear (known : Remembers start calls) : Remembers start (calls ++ [.clear]) := by
  have cleared : after start (calls ++ [.clear]) = (after start calls).clear := after_snoc start calls _
  refine ⟨by rw [cleared]; exact known.ttl,by rw [cleared]; exact known.room,⟨touched start calls,[],?_,?_,?_⟩,?_⟩
  · rw [touched_snoc]
    rfl
  · rw [cleared,window_nil]
    rfl
  · intro key value time last
    rcases lastSet_snoc.mp last with same | ⟨_,_,kept⟩
    · cases same
    · exact (kept rfl).elim
  · intro key entry found
    rw [cleared] at found
    cases found

/-- Every history keeps the agreement. -/
theorem remembers (fresh : start.entries = .empty) (lives : 0 < start.ttl) (calls : List (Call α)) : Remembers start calls := by
  induction calls using List.reverseRecOn with
  | nil => exact remembers_nil fresh
  | append_singleton calls call ih =>
    cases call with
    | get key now => exact remembers_get ih key now
    | getStale key => exact remembers_idle ih rfl rfl (lastSet_read (by simp) (by simp))
    | set key value now => exact remembers_set lives ih key value now
    | clear => exact remembers_clear ih

/-- The entry of a key that few others were used after. -/
theorem stored_of_few (known : Remembers start calls) {key : Text} {value : α} {time : ℚ} (last : LastSet calls key value time)
    (few : (othersSince start calls key).length < start.maxEntries) :
    ∃ entry, (after start calls).entries.get? key = some entry := by
  obtain ⟨early,late,split,keys,lasting⟩ := known.recent
  have occurs : key ∈ late := lasting key value time last
  rw [othersSince,split,rtakeWhile_append early occurs] at few
  have listed : key ∈ (after start calls).entries.keys := keys ▸ mem_window occurs few
  exact Option.isSome_iff_exists.mp ((Dict.get?_isSome _ key).mpr listed)

/-- The cache stays within its bound; what it returns was set last for that key, its lifetime,
    added in the cache's arithmetic, not yet over, and it does return that while few other
    keys are in use. -/
theorem get_after_history (fresh : start.entries = .empty) (lives : 0 < start.ttl) (calls : List (Call α)) (key : Text) (now : ℚ) :
    (after start calls).size ≤ start.maxEntries ∧
      (∀ value time, LastSet calls key value time → now < fl (time + start.ttl) →
        (othersSince start calls key).length < start.maxEntries → ((after start calls).get key now).1 = some value) ∧
      ∀ value, ((after start calls).get key now).1 = some value → ∃ time, LastSet calls key value time ∧ now < fl (time + start.ttl) := by
  have known := remembers fresh lives calls
  obtain ⟨early,late,_,keys,_⟩ := known.recent
  refine ⟨?_,?_,?_⟩
  · have bounded := length_window start.maxEntries late
    rw [← keys,Dict.keys,List.length_map] at bounded
    exact bounded
  · intro value time last live few
    obtain ⟨entry,found⟩ := stored_of_few known last few
    obtain ⟨written,held,expires⟩ := known.stored key entry found
    obtain ⟨same,since⟩ := last.unique held
    exact get_eq_some.mpr ⟨entry,found,by rw [expires,← since]; exact live,same.symm⟩
  · intro value returned
    obtain ⟨entry,found,live,rfl⟩ := get_eq_some.mp returned
    obtain ⟨time,last,expires⟩ := known.stored key entry found
    exact ⟨time,last,expires ▸ live⟩

end

/-- Two addresses looked up in a cache for two: the first is still there. -/
theorem get_after_two_sets :
    ((after { ttl := 10, maxEntries := 2 } [.set (lit "203.0.113.7") true 0,.set (lit "198.51.100.4") false 1]).get (lit "203.0.113.7") 5).1 =
      some true := by
  have lives : (0 : ℚ) < 10 := by simp
  have later : ∀ other time, .set (lit "203.0.113.7") other time ∉ [Call.set (lit "198.51.100.4") false 1] := by
    intro other time member
    have same := (Call.set.inj (List.mem_singleton.mp member)).1
    exact absurd same (by decide)
  exact (get_after_history rfl lives _ _ _).2.1 true 0 ⟨[],[.set (lit "198.51.100.4") false 1],rfl,later,by simp⟩ (by decide +kernel) (by decide)

/-- The floats 21967.003 and 43567.003. -/
def storedAt : ℚ := nearest (21967003 / 1000)
def readAt : ℚ := nearest (43567003 / 1000)

/-- An address judged once, in a cache that keeps judgements for six hours. -/
def judged : List (Call Bool) := [.set (lit "203.0.113.7") true storedAt]
def sixHours : TtlCache Bool := { ttl := 21600 }

/-- The two lie less than six hours apart, but six hours after the first rounds to the second. -/
theorem expired_early :
    LastSet judged (lit "203.0.113.7") true storedAt ∧ othersSince sixHours judged (lit "203.0.113.7") = [] ∧ storedAt ≤ readAt ∧
      readAt < storedAt + sixHours.ttl ∧ ((after sixHours judged).get (lit "203.0.113.7") readAt).1 = none := by
  refine ⟨⟨[],[],rfl,by simp,by simp⟩,?_,?_,?_,?_⟩
  · decide +kernel
  · decide +kernel
  · decide +kernel
  · decide +kernel

end SocAnalyst.CacheHistories
