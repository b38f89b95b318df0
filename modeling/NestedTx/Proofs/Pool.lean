import NestedTx.Proofs.Server.Change
import NestedTx.Transaction.Basic

namespace NestedTx

open Server (Change)

def Backend.Clean (backend : Backend) : Prop :=
  ∀ idle ∈ backend.pool.idle, idle.2.pending = none

def ServerTransaction.Holds (texts : List String) (tx : ServerTransaction) : Prop :=
  tx.connection.link.pending = if tx.done then none else some texts

def ServerTransaction.waiting (texts : List String) (tx : ServerTransaction) : ServerTransaction :=
  { tx with connection := { tx.connection with link := ⟨some texts⟩ } }

def ServerTransaction.finish (action : ExitAction) (tx : ServerTransaction) (backend : Backend) :
    Except DriverError Unit × ServerTransaction × Backend :=
  match action with
  | .commit => tx.commit backend
  | .rollback => tx.rollback backend

namespace ExitAction

def published (texts : List String) : ExitAction → List String
  | commit => texts
  | rollback => []

def commits : ExitAction → Nat
  | commit => 1
  | rollback => 0

def rollbacks : ExitAction → Nat
  | commit => 0
  | rollback => 1

end ExitAction

variable {texts : List String} {backend : Backend}

namespace Backend

theorem giveBack_server (connection : Connection) (backend : Backend) :
    (backend.giveBack connection).server = backend.server := by
  unfold giveBack
  split <;> rfl

theorem discard_server (connection : Connection) (backend : Backend) :
    (backend.discard connection).server = backend.server := by
  unfold discard
  split <;> rfl

theorem Clean.giveBack (clean : backend.Clean) {connection : Connection}
    (free : connection.link.pending = none) : (backend.giveBack connection).Clean := by
  unfold Backend.giveBack
  split
  · intro idle hm
    rcases List.mem_append.mp hm with hm | hm
    · exact clean idle hm
    · rw [List.mem_singleton.mp hm]
      exact free
  · exact clean

theorem Clean.discard (clean : backend.Clean) (connection : Connection) :
    (backend.discard connection).Clean := by
  unfold Backend.discard
  split <;> exact clean

theorem release_of_free {connection : Connection} (free : connection.link.pending = none) :
    backend.release connection = backend.giveBack connection := by
  simp [release, Link.inTransaction, free]

theorem release_cases (connection : Connection) (backend : Backend) :
    (∃ server' rollbacks, rollbacks ≤ 1 ∧ Change [] 0 rollbacks backend.server server' ∧
      backend.release connection =
        Backend.giveBack { connection with link := ⟨none⟩ } { backend with server := server' }) ∨
    ∃ server', connection.link.pending ≠ none ∧ backend.server.faults.rollback = true ∧
      Change [] 0 1 backend.server server' ∧
      backend.release connection = Backend.discard connection { backend with server := server' } := by
  cases hp : connection.link.pending with
  | none =>
    refine .inl ⟨backend.server, 0, Nat.zero_le 1, .refl _, ?_⟩
    have same : ({ connection with link := ⟨none⟩ } : Connection) = connection := by rw [← hp]
    rw [release_of_free hp, same]
  | some texts =>
    have ho : connection.link.inTransaction = true := by simp [Link.inTransaction, hp]
    rcases connection.link.rollback_cases backend.server with
      ⟨error, server', he, hc, refused⟩ | ⟨_, server', _, he, hc⟩
    · refine .inr ⟨server', nofun, by simpa [hp] using refused, hc, ?_⟩
      simp only [Backend.release, ho, if_true, he]
    · refine .inl ⟨server', 1, Nat.le_refl 1, hc, ?_⟩
      simp only [Backend.release, ho, if_true, he]

theorem release_change (connection : Connection) (backend : Backend) :
    ∃ rollbacks, Change [] 0 rollbacks backend.server (backend.release connection).server := by
  rcases release_cases connection backend with
    ⟨server', rollbacks, _, change, he⟩ | ⟨server', _, _, change, he⟩
  · rw [he, giveBack_server]
    exact ⟨rollbacks, change⟩
  · rw [he, discard_server]
    exact ⟨1, change⟩

theorem Clean.release (clean : backend.Clean) (connection : Connection) :
    (backend.release connection).Clean := by
  have hclean (server' : Server) : ({ backend with server := server' } : Backend).Clean := clean
  rcases release_cases connection backend with ⟨server', _, _, _, he⟩ | ⟨server', _, _, _, he⟩
  · rw [he]
    exact (hclean server').giveBack rfl
  · rw [he]
    exact (hclean server').discard connection

theorem Clean.checkout (clean : backend.Clean) :
    backend.checkout.2.Clean ∧ Change [] 0 0 backend.server backend.checkout.2.server ∧
      ∀ connection, backend.checkout.1 = .ok connection → connection.link.pending = none := by
  simp only [Backend.checkout]
  cases hi : backend.pool.idle with
  | cons first rest =>
    refine ⟨fun idle hm => clean idle (hi ▸ List.mem_cons_of_mem _ hm), .refl _, ?_⟩
    rintro connection ⟨⟩
    exact clean first (hi ▸ List.mem_cons_self)
  | nil =>
    have hclean (server' : Server) : ({ backend with server := server' } : Backend).Clean := clean
    dsimp only
    split
    · exact ⟨clean, .refl _, fun connection he => by cases he⟩
    · have hc := backend.server.connect_change
      rcases hs : backend.server.connect with ⟨result, server'⟩
      rw [hs] at hc
      cases result with
      | error error => exact ⟨hclean server', hc, fun connection he => by cases he⟩
      | ok link =>
        refine ⟨fun idle hm => by simp at hm, hc, ?_⟩
        rintro connection ⟨⟩
        exact Server.pending_of_connect (by rw [hs])

end Backend

namespace Connection

theorem ping_change (connection : Connection) (backend : Backend) :
    (connection.ping backend).2.pool = backend.pool ∧
      Change [] 0 0 backend.server (connection.ping backend).2.server :=
  ⟨rfl, connection.link.ping_change backend.server⟩

theorem fetch_change (sql : String) (connection : Connection) (backend : Backend) :
    (connection.fetch sql backend).2.pool = backend.pool ∧
      Change [] 0 0 backend.server (connection.fetch sql backend).2.server :=
  ⟨rfl, connection.link.fetch_change backend.server sql⟩

theorem execute_cases {connection : Connection} (free : connection.link.pending = none)
    (sql : String) (backend : Backend) :
    ∃ result server', connection.execute sql backend =
        (result, connection, { backend with server := server' }) ∧
      Change (if result.toBool then [sql] else []) 0 0 backend.server server' := by
  rcases connection.link.execute_cases backend.server sql with
    ⟨error, server', he, hc⟩ | ⟨count, server', _, he, hc⟩ | ⟨count, texts, server', hp, _⟩
  · exact ⟨.error error, server', by simp only [execute, he], hc⟩
  · exact ⟨.ok count, server', by simp only [execute, he], hc⟩
  · simp [free] at hp

end Connection

namespace ServerTransaction

variable {tx : ServerTransaction}

theorem begin_cases {connection : Connection} (free : connection.link.pending = none)
    (backend : Backend) :
    (∃ error server', ServerTransaction.begin connection backend =
        (.error error, Backend.giveBack connection { backend with server := server' }) ∧
      Change [] 0 0 backend.server server') ∨
    ∃ server', ServerTransaction.begin connection backend =
        (.ok ⟨{ connection with link := ⟨some []⟩ }, false⟩, { backend with server := server' }) ∧
      Change [] 0 0 backend.server server' := by
  rcases connection.link.begin_cases backend.server with ⟨error, server', he, hc⟩ | ⟨server', he, hc⟩
  · refine .inl ⟨error, server', ?_, hc⟩
    simp only [ServerTransaction.begin, he]
    rw [Backend.release_of_free free]
  · exact .inr ⟨server', by simp only [ServerTransaction.begin, he], hc⟩

namespace Holds

theorem finish_cases (h : tx.Holds texts) (action : ExitAction) (backend : Backend) :
    (∃ error commits rollbacks server', tx.finish action backend =
        (.error error, tx, { backend with server := server' }) ∧
      Change [] commits rollbacks backend.server server' ∧
      (backend.server.Obliging → tx.done = true)) ∨
    ∃ server', tx.finish action backend =
        (.ok (), ⟨{ tx.connection with link := ⟨none⟩ }, true⟩, { backend with server := server' }) ∧
      Change (action.published texts) action.commits action.rollbacks backend.server server' ∧
      tx.done = false := by
  obtain ⟨connection, _ | _⟩ := tx
  · replace h : connection.link.pending = some texts := h
    cases action with
    | commit =>
      rcases connection.link.commit_cases backend.server with
        ⟨error, server', he, hc, hr⟩ | ⟨texts', server', hp, he, hc⟩
      · refine .inl ⟨error, 1, 0, server', by simp [finish, commit, he], hc, fun ho => ?_⟩
        simp [h, ho.commit] at hr
      · cases h.symm.trans hp
        exact .inr ⟨server', by simp [finish, commit, he], hc, rfl⟩
    | rollback =>
      rcases connection.link.rollback_cases backend.server with
        ⟨error, server', he, hc, hr⟩ | ⟨texts', server', hp, he, hc⟩
      · refine .inl ⟨error, 0, 1, server', by simp [finish, rollback, he], hc, fun ho => ?_⟩
        simp [h, ho.rollback] at hr
      · exact .inr ⟨server', by simp [finish, rollback, he], hc, rfl⟩
  · refine .inl ⟨.closed, 0, 0, backend.server, ?_, .refl _, fun _ => rfl⟩
    cases action <;> simp [finish, commit, rollback]

theorem execute_eq (h : tx.Holds texts) (sql : String) (backend : Backend) :
    (∃ error server', tx.execute sql backend =
        (.error error, tx, { backend with server := server' }) ∧
      Change [] 0 0 backend.server server') ∨
    ∃ count server', tx.execute sql backend =
        (.ok count, tx.waiting (texts ++ [sql]), { backend with server := server' }) ∧
      Change [] 0 0 backend.server server' ∧ tx.done = false ∧
      tx.connection.link.pending = some texts := by
  obtain ⟨connection, _ | _⟩ := tx
  · replace h : connection.link.pending = some texts := h
    rcases connection.link.execute_cases backend.server sql with
      ⟨error, server', he, hc⟩ | ⟨count, server', hp, _⟩ | ⟨count, texts', server', hp, he, hc⟩
    · exact .inl ⟨error, server', by simp [execute, Connection.execute, he], hc⟩
    · simp [h] at hp
    · cases h.symm.trans hp
      exact .inr ⟨count, server', by simp [execute, Connection.execute, he, waiting], hc, rfl, h⟩
  · exact .inl ⟨.closed, backend.server, by simp [execute], .refl _⟩

theorem execute_cases (h : tx.Holds texts) (sql : String) (backend : Backend) :
    (∃ error server', tx.execute sql backend =
        (.error error, tx, { backend with server := server' }) ∧
      Change [] 0 0 backend.server server') ∨
    ∃ count tx' server', tx.execute sql backend =
        (.ok count, tx', { backend with server := server' }) ∧
      Change [] 0 0 backend.server server' ∧ tx'.Holds (texts ++ [sql]) ∧ tx'.done = false ∧
      tx.done = false := by
  rcases h.execute_eq sql backend with refused | ⟨count, server', he, change, isOpen, _⟩
  · exact .inl refused
  · refine .inr ⟨count, _, server', he, change, ?_, isOpen, isOpen⟩
    simp [Holds, waiting, isOpen]

end Holds

theorem finish_cases (action : ExitAction) (tx : ServerTransaction) (backend : Backend) :
    (∃ error commits rollbacks server', tx.finish action backend =
        (.error error, tx, { backend with server := server' }) ∧
      Change [] commits rollbacks backend.server server') ∨
    ∃ texts server', tx.finish action backend =
        (.ok (), ⟨{ tx.connection with link := ⟨none⟩ }, true⟩, { backend with server := server' }) ∧
      Change texts action.commits action.rollbacks backend.server server' := by
  cases action with
  | commit =>
    simp only [finish, commit]
    split
    · exact .inl ⟨_, 0, 0, _, rfl, .refl _⟩
    · rcases tx.connection.link.commit_cases backend.server with
        ⟨error, server', he, hc, _⟩ | ⟨texts, server', _, he, hc⟩
      · rw [he]
        exact .inl ⟨_, _, _, _, rfl, hc⟩
      · rw [he]
        exact .inr ⟨_, _, rfl, hc⟩
  | rollback =>
    simp only [finish, rollback]
    split
    · exact .inl ⟨_, 0, 0, _, rfl, .refl _⟩
    · rcases tx.connection.link.rollback_cases backend.server with
        ⟨error, server', he, hc, _⟩ | ⟨texts, server', _, he, hc⟩
      · rw [he]
        exact .inl ⟨_, _, _, _, rfl, hc⟩
      · rw [he]
        exact .inr ⟨_, _, rfl, hc⟩

theorem finish_change (action : ExitAction) (tx : ServerTransaction) (backend : Backend) :
    ∃ texts commits rollbacks,
      Change texts commits rollbacks backend.server (tx.finish action backend).2.2.server := by
  rcases tx.finish_cases action backend with ⟨_, _, _, server', he, change⟩ | ⟨_, server', he, change⟩
  · rw [he]
    exact ⟨_, _, _, change⟩
  · rw [he]
    exact ⟨_, _, _, change⟩

theorem execute_change (sql : String) (tx : ServerTransaction) (backend : Backend) :
    ∃ texts, Change texts 0 0 backend.server (tx.execute sql backend).2.2.server := by
  simp only [execute, Connection.execute]
  split
  · exact ⟨[], .refl _⟩
  · rcases tx.connection.link.execute_cases backend.server sql with
      ⟨error, server', he, hc⟩ | ⟨count, server', _, he, hc⟩ | ⟨count, texts, server', _, he, hc⟩
    · rw [he]
      exact ⟨_, hc⟩
    · rw [he]
      exact ⟨_, hc⟩
    · rw [he]
      exact ⟨_, hc⟩

theorem fetch_change (sql : String) (tx : ServerTransaction) (backend : Backend) :
    (tx.fetch sql backend).2.pool = backend.pool ∧
      Change [] 0 0 backend.server (tx.fetch sql backend).2.server := by
  unfold fetch
  split
  · exact ⟨rfl, .refl _⟩
  · exact tx.connection.fetch_change sql backend

end ServerTransaction

end NestedTx
