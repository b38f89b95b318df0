import NestedTx.Cache.Store

namespace NestedTx

def Finding.data? : Finding → Option ByteArray
  | .live data => some data
  | _ => none

namespace Store

structure Put where
  data : ByteArray
  time : Duration
  ttl : Duration

namespace Put

def ends (put : Put) : Duration := put.time + put.ttl

def entry (put : Put) : CacheEntry := ⟨put.data, instantAfter put.time put.ttl⟩

def lasts (now : Duration) (put : Put) : Bool := now < put.ends || lastInstant < put.ends

theorem isLive_entry (now : Duration) (put : Put) : put.entry.isLive now = put.lasts now := by
  have expires : put.entry.expiresAt = if lastInstant < put.ends then none else some put.ends := rfl
  rw [CacheEntry.isLive, expires, lasts]
  by_cases late : lastInstant < put.ends
  · rw [if_pos late, decide_eq_true late, Bool.or_true]
  · rw [if_neg late, decide_eq_false late, Bool.or_false]

theorem lasts_of_le {put : Put} {time now : Duration} (le : time.nanos ≤ now.nanos)
    (lasts : put.lasts now = true) : put.lasts time = true := by
  simp only [Put.lasts, Bool.or_eq_true, decide_eq_true_eq, Duration.lt_iff] at lasts ⊢
  omega

end Put

/-- What can be done with a store, and the passing of time. Who looks for a key may have to remove what
stands there; the `i`th of those who still have to does so. -/
inductive Move
  | wait (elapsed : Duration)
  | set (key : String) (data : ByteArray) (ttl : Duration)
  | delete (key : String)
  | purge
  | look (key : String)
  | evict (i : Nat)

def Move.tells : Move → Bool
  | wait _ => true
  | set _ _ _ => true
  | delete _ => true
  | _ => false

def lastPut (key : String) : List (Duration × Move) → Option Put
  | [] => none
  | (time, .set key' data ttl) :: past =>
    if key' = key ∧ key' ≠ "" then some ⟨data, time, ttl⟩ else lastPut key past
  | (_, .delete key') :: past => if key' = key then none else lastPut key past
  | _ :: past => lastPut key past

structure Usage where
  store : Store
  clock : Duration
  stale : List (String × Duration)
  history : List (Duration × Move)

namespace Usage

def start (clock : Duration) : Usage := ⟨.empty, clock, [], []⟩

def move (usage : Usage) : Move → Usage
  | .wait elapsed => { usage with clock := usage.clock + elapsed }
  | .set key data ttl => { usage with store := (usage.store.set key data ttl usage.clock).2 }
  | .delete key => { usage with store := usage.store.remove key }
  | .purge => { usage with store := (usage.store.purge usage.clock).2 }
  | .look key =>
    match usage.store.find key usage.clock with
    | .expired => { usage with stale := usage.stale ++ [(key, usage.clock)] }
    | _ => usage
  | .evict i =>
    match usage.stale[i]? with
    | some (key, time) =>
      { usage with store := usage.store.evict key time, stale := usage.stale.eraseIdx i }
    | none => usage

def step (usage : Usage) (move : Move) : Usage :=
  { usage.move move with history := (usage.clock, move) :: usage.history }

def steps (usage : Usage) (moves : List Move) : Usage := moves.foldl step usage

def lasting (key : String) (usage : Usage) : Option Put :=
  (lastPut key usage.history).filter (·.lasts usage.clock)

/-- The entries are of what was last put under their keys, and nothing is missing that lasts. -/
structure Keeps (usage : Usage) : Prop where
  once : (usage.store.entries.map Prod.fst).Nodup
  known : ∀ key entry, (key, entry) ∈ usage.store.entries →
    ∃ put, lastPut key usage.history = some put ∧ entry = put.entry
  kept : ∀ key put, lastPut key usage.history = some put → put.lasts usage.clock = true →
    (key, put.entry) ∈ usage.store.entries
  past : ∀ found ∈ usage.stale, found.2.nanos ≤ usage.clock.nanos

end Usage

variable {key : String} {now : Duration} {store : Store}

theorem lookup_eq_some_iff {entries : List (String × CacheEntry)}
    (once : (entries.map Prod.fst).Nodup) {entry : CacheEntry} :
    entries.lookup key = some entry ↔ (key, entry) ∈ entries := by
  induction entries with
  | nil => simp
  | cons e entries ih =>
    obtain ⟨key', entry'⟩ := e
    obtain ⟨fresh, once⟩ := List.nodup_cons.mp once
    by_cases same : key = key'
    · subst same
      have none : (key, entry) ∉ entries := fun mem => fresh (List.mem_map.mpr ⟨_, mem, rfl⟩)
      simp [none, eq_comm]
    · have ne : (key == key') = false := beq_eq_false_iff_ne.mpr same
      simp [List.lookup_cons, ne, same, ih once]

theorem mem_remove {e : String × CacheEntry} :
    e ∈ (store.remove key).entries ↔ e ∈ store.entries ∧ e.1 ≠ key := by
  simp [remove]

theorem mem_purge {e : String × CacheEntry} :
    e ∈ (store.purge now).2.entries ↔ e ∈ store.entries ∧ e.2.isLive now = true := by
  simp [purge]

theorem once_remove (once : (store.entries.map Prod.fst).Nodup) (key : String) :
    ((store.remove key).entries.map Prod.fst).Nodup :=
  (List.filter_sublist.map Prod.fst).nodup once

theorem once_purge (once : (store.entries.map Prod.fst).Nodup) (now : Duration) :
    ((store.purge now).2.entries.map Prod.fst).Nodup :=
  (List.filter_sublist.map Prod.fst).nodup once

theorem evict_eq (key : String) (now : Duration) (store : Store) :
    store.evict key now = store ∨ store.evict key now = store.remove key ∧
      ∃ entry, store.entries.lookup key = some entry ∧ entry.isLive now = false := by
  simp only [evict, find]
  cases known : store.entries.lookup key with
  | none => exact .inl rfl
  | some entry =>
    cases live : entry.isLive now with
    | true => exact .inl (by simp [live])
    | false => exact .inr ⟨by simp [live], entry, rfl, live⟩

theorem get_eq (key : String) (now : Duration) (store : Store) :
    store.get key now = ((store.find key now).data?, store.evict key now) := by
  simp only [get, evict]
  cases store.find key now <;> rfl

namespace Usage

variable {usage usage' : Usage}

theorem start_keeps (clock : Duration) : (start clock).Keeps :=
  ⟨List.nodup_nil, nofun, nofun, nofun⟩

namespace Keeps

theorem lookup_iff (h : usage.Keeps) {entry : CacheEntry} :
    usage.store.entries.lookup key = some entry ↔ (key, entry) ∈ usage.store.entries :=
  lookup_eq_some_iff h.once

theorem data?_find (h : usage.Keeps) (key : String) :
    (usage.store.find key usage.clock).data? = (usage.lasting key).map Put.data := by
  rw [find, lasting]
  cases found : usage.store.entries.lookup key with
  | none =>
    cases known : lastPut key usage.history with
    | none => rfl
    | some put =>
      have gone : put.lasts usage.clock = false := by
        apply Bool.eq_false_iff.mpr
        intro lasts
        cases found.symm.trans (h.lookup_iff.mpr (h.kept key put known lasts))
      simp [Option.filter, gone, Finding.data?]
  | some entry =>
    obtain ⟨put, known, rfl⟩ := h.known key entry (h.lookup_iff.mp found)
    simp only [known, Put.isLive_entry, Option.filter]
    by_cases lasts : put.lasts usage.clock = true
    · simp only [if_pos lasts]
      rfl
    · simp only [if_neg lasts]
      rfl

theorem wait (h : usage.Keeps) (elapsed : Duration) : (usage.step (.wait elapsed)).Keeps where
  once := h.once
  known := h.known
  kept key put known lasts := h.kept key put known (Put.lasts_of_le (Nat.le_add_right _ _) lasts)
  past found mem := Nat.le_trans (h.past found mem) (Nat.le_add_right _ _)

theorem set (h : usage.Keeps) (key : String) (data : ByteArray) (ttl : Duration) :
    (usage.step (.set key data ttl)).Keeps := by
  by_cases empty : key = ""
  · have same (other : String) : lastPut other (usage.step (.set key data ttl)).history =
        lastPut other usage.history := by simp [step, lastPut, empty]
    have store : (usage.step (.set key data ttl)).store = usage.store := by
      simp [step, move, Store.set, empty]
    refine ⟨store ▸ h.once, ?_, fun other put known lasts => ?_, h.past⟩
    · simpa only [store, same] using h.known
    · rw [store]
      exact h.kept other put ((same other).symm.trans known) lasts
  · have entries : (usage.step (.set key data ttl)).store.entries =
        (key, Put.entry ⟨data, usage.clock, ttl⟩) :: (usage.store.remove key).entries := by
      simp [step, move, Store.set, empty, Put.entry]
    have new : lastPut key (usage.step (.set key data ttl)).history =
        some ⟨data, usage.clock, ttl⟩ := by simp [step, lastPut, empty]
    have old {other : String} (ne : other ≠ key) :
        lastPut other (usage.step (.set key data ttl)).history = lastPut other usage.history := by
      simp [step, lastPut, ne.symm]
    refine ⟨?_, fun other entry mem => ?_, fun other put known lasts => ?_, h.past⟩
    · rw [entries, List.map_cons, List.nodup_cons]
      refine ⟨fun mem => ?_, once_remove h.once key⟩
      obtain ⟨e, mem, same⟩ := List.mem_map.mp mem
      exact (mem_remove.mp mem).2 same
    · rw [entries] at mem
      rcases List.mem_cons.mp mem with same | mem
      · cases same
        exact ⟨_, new, rfl⟩
      · obtain ⟨mem, ne⟩ := mem_remove.mp mem
        rw [old ne]
        exact h.known other entry mem
    · rw [entries]
      by_cases same : other = key
      · subst same
        cases known.symm.trans new
        exact List.mem_cons_self
      · rw [old same] at known
        exact List.mem_cons_of_mem _ (mem_remove.mpr ⟨h.kept other put known lasts, same⟩)

theorem delete (h : usage.Keeps) (key : String) : (usage.step (.delete key)).Keeps := by
  have gone : lastPut key (usage.step (.delete key)).history = none := by simp [step, lastPut]
  have old {other : String} (ne : other ≠ key) :
      lastPut other (usage.step (.delete key)).history = lastPut other usage.history := by
    simp [step, lastPut, ne.symm]
  refine ⟨once_remove h.once key, fun other entry mem => ?_, fun other put known lasts => ?_, h.past⟩
  · obtain ⟨mem, ne⟩ := mem_remove.mp mem
    rw [old ne]
    exact h.known other entry mem
  · have ne : other ≠ key := by
      rintro rfl
      cases gone.symm.trans known
    rw [old ne] at known
    exact mem_remove.mpr ⟨h.kept other put known lasts, ne⟩

theorem purge (h : usage.Keeps) : (usage.step .purge).Keeps where
  once := once_purge h.once usage.clock
  known key entry mem := h.known key entry (mem_purge.mp mem).1
  kept key put known lasts :=
    mem_purge.mpr ⟨h.kept key put known lasts, (put.isLive_entry usage.clock).trans lasts⟩
  past := h.past

theorem look (h : usage.Keeps) (key : String) : (usage.step (.look key)).Keeps := by
  have same : (usage.move (.look key)).store = usage.store ∧
      (usage.move (.look key)).clock = usage.clock := by
    simp only [move]
    split <;> exact ⟨rfl, rfl⟩
  refine ⟨?_, ?_, ?_, fun found mem => ?_⟩
  · simpa only [step, same] using h.once
  · simpa only [step, same, lastPut] using h.known
  · simpa only [step, same, lastPut] using h.kept
  · simp only [step, move] at mem ⊢
    split at mem
    · rcases List.mem_append.mp mem with mem | mem
      · exact h.past found mem
      · cases List.mem_singleton.mp mem
        exact Nat.le_refl _
    · exact h.past found mem

theorem evict (h : usage.Keeps) (i : Nat) : (usage.step (.evict i)).Keeps := by
  cases found : usage.stale[i]? with
  | none =>
    have same : usage.move (.evict i) = usage := by simp only [move, found]
    refine ⟨?_, ?_, ?_, ?_⟩
    · simpa only [step, same] using h.once
    · simpa only [step, same, lastPut] using h.known
    · simpa only [step, same, lastPut] using h.kept
    · simpa only [step, same] using h.past
  | some seen =>
    obtain ⟨key, time⟩ := seen
    have same : usage.move (.evict i) =
        { usage with store := usage.store.evict key time, stale := usage.stale.eraseIdx i } := by
      simp only [move, found]
    have past : ∀ found ∈ usage.stale.eraseIdx i, found.2.nanos ≤ usage.clock.nanos :=
      fun found mem => h.past found (List.mem_of_mem_eraseIdx mem)
    simp only [step, same]
    rcases evict_eq key time usage.store with stays | ⟨removed, entry, known, gone⟩
    · rw [stays]
      exact ⟨h.once, h.known, h.kept, past⟩
    · rw [removed]
      refine ⟨once_remove h.once key, fun other entry mem => ?_, fun other put known' lasts => ?_, past⟩
      · exact h.known other entry (mem_remove.mp mem).1
      · refine mem_remove.mpr ⟨h.kept other put known' lasts, ?_⟩
        rintro rfl
        have here := h.lookup_iff.mpr (h.kept _ put known' lasts)
        cases known.symm.trans here
        have early := Put.lasts_of_le (h.past _ (List.mem_of_getElem? found)) lasts
        rw [Put.isLive_entry, early] at gone
        cases gone

theorem step (h : usage.Keeps) (move : Move) : (usage.step move).Keeps := by
  cases move with
  | wait elapsed => exact h.wait elapsed
  | set key data ttl => exact h.set key data ttl
  | delete key => exact h.delete key
  | purge => exact h.purge
  | look key => exact h.look key
  | evict i => exact h.evict i

protected theorem steps (h : usage.Keeps) (moves : List Move) : (usage.steps moves).Keeps := by
  induction moves generalizing usage with
  | nil => exact h
  | cons move moves ih => exact ih (h.step move)

theorem mem_purge_iff (h : usage.Keeps) {key : String} {entry : CacheEntry} :
    (key, entry) ∈ (usage.store.purge usage.clock).2.entries ↔
      ∃ put, usage.lasting key = some put ∧ entry = put.entry := by
  rw [mem_purge]
  constructor
  · rintro ⟨mem, live⟩
    obtain ⟨put, known, rfl⟩ := h.known key entry mem
    rw [Put.isLive_entry] at live
    exact ⟨put, by simp [lasting, known, Option.filter, live], rfl⟩
  · rintro ⟨put, lasting, rfl⟩
    obtain ⟨known, lasts⟩ := Option.filter_eq_some_iff.mp lasting
    exact ⟨h.kept key put known lasts, (put.isLive_entry usage.clock).trans lasts⟩

end Keeps

structure Like (usage usage' : Usage) : Prop where
  clock : usage'.clock = usage.clock
  puts : ∀ key, lastPut key usage'.history = lastPut key usage.history

theorem clock_move (usage : Usage) {move : Move} (silent : move.tells = false) :
    (usage.move move).clock = usage.clock := by
  cases move with
  | purge => rfl
  | look key =>
    simp only [Usage.move]
    split <;> rfl
  | evict i =>
    simp only [Usage.move]
    split <;> rfl
  | _ => cases silent

theorem lastPut_silent (key : String) (time : Duration) {move : Move} (silent : move.tells = false)
    (history : List (Duration × Move)) : lastPut key ((time, move) :: history) = lastPut key history := by
  cases move with
  | purge | look key | evict i => rfl
  | _ => cases silent

theorem Like.step (like : Like usage usage') {move : Move} (tells : move.tells = true) :
    Like (usage.step move) (usage'.step move) := by
  cases move with
  | wait elapsed => exact ⟨congrArg (· + elapsed) like.clock, like.puts⟩
  | set key data ttl =>
    refine ⟨like.clock, fun other => ?_⟩
    simp only [Usage.step, lastPut, like.clock, like.puts]
  | delete key =>
    refine ⟨like.clock, fun other => ?_⟩
    simp only [Usage.step, lastPut, like.puts]
  | _ => cases tells

theorem Like.pass (like : Like usage usage') {move : Move} (silent : move.tells = false) :
    Like (usage.step move) usage' where
  clock := like.clock.trans (usage.clock_move silent).symm
  puts key := (like.puts key).trans (lastPut_silent key _ silent _).symm

theorem Like.steps (like : Like usage usage') (moves : List Move) :
    Like (usage.steps moves) (usage'.steps (moves.filter Move.tells)) := by
  induction moves generalizing usage usage' with
  | nil => exact like
  | cons move moves ih =>
    cases tells : move.tells with
    | true =>
      rw [List.filter_cons_of_pos tells]
      exact ih (like.step tells)
    | false =>
      rw [List.filter_cons_of_neg (Bool.eq_false_iff.mp tells)]
      exact ih (like.pass tells)

theorem Like.lasting (like : Like usage usage') (key : String) :
    usage'.lasting key = usage.lasting key := by
  rw [Usage.lasting, Usage.lasting, like.clock, like.puts]

theorem evict_of_look (usage : Usage) (key : String) :
    ((usage.step (.look key)).step (.evict usage.stale.length)).store =
      usage.store.evict key usage.clock := by
  have looked : usage.move (.look key) = usage ∨
      usage.move (.look key) = { usage with stale := usage.stale ++ [(key, usage.clock)] } := by
    simp only [move]
    split
    · exact .inr rfl
    · exact .inl rfl
  cases found : usage.store.find key usage.clock with
  | expired => simp [step, move, found]
  | live data => simp [step, move, found, Store.evict]
  | absent => simp [step, move, found, Store.evict]

/-- Through all uses of a store, a look-up finds what was last put under its key and lasts, and nothing
else. That some of the entries are removed, and when, makes no difference to anybody. Purging answers how
many entries it removed, and leaves those that last. Nothing is put under the empty key. -/
theorem gets_of_steps (clock : Duration) (moves : List Move) :
    let usage := (start clock).steps moves
    let now := usage.clock
    let purged := usage.store.purge now
    (∀ key, (usage.store.find key now).data? = (usage.lasting key).map Put.data) ∧
      (∀ key, usage.store.get key now = ((usage.store.find key now).data?,
        ((usage.step (.look key)).step (.evict usage.stale.length)).store)) ∧
      (∀ key, (usage.store.find key now).data? =
        (((start clock).steps (moves.filter Move.tells)).store.find key now).data?) ∧
      purged.1 + purged.2.size = usage.store.size ∧ (purged.2.entries.map Prod.fst).Nodup ∧
      (∀ key entry, (key, entry) ∈ purged.2.entries ↔
        ∃ put, usage.lasting key = some put ∧ entry = put.entry) ∧
      (∀ data ttl, usage.store.set "" data ttl now =
        (.error (.invalidKey "empty key"), usage.store)) ∧
      ∀ key data ttl, key ≠ "" → (usage.store.set key data ttl now).1 = .ok () := by
  intro usage now purged
  have keeps : usage.Keeps := (start_keeps clock).steps moves
  have like : Like usage ((start clock).steps (moves.filter Move.tells)) :=
    Like.steps ⟨rfl, fun _ => rfl⟩ moves
  refine ⟨keeps.data?_find, fun key => ?_, fun key => ?_, ?_, once_purge keeps.once now,
    fun key entry => keeps.mem_purge_iff, fun data ttl => ?_, fun key data ttl named => ?_⟩
  · rw [evict_of_look, get_eq]
  · have told := ((start_keeps clock).steps (moves.filter Move.tells)).data?_find key
    rw [like.clock, like.lasting] at told
    rw [keeps.data?_find key]
    exact told.symm
  · exact Nat.sub_add_cancel (List.length_filter_le _ _)
  · simp [Store.set]
  · simp [Store.set, named]

example (old new : ByteArray) :
    let usage := (start ⟨0⟩).steps [.set "k" old ⟨10⟩, .wait ⟨50⟩, .look "k", .set "k" new ⟨60⟩,
      .evict 0, .wait ⟨59⟩]
    (usage.store.find "k" usage.clock).data? = some new := by rfl

end Usage

end Store

end NestedTx
