import NestedTx.Pool

namespace NestedTx

structure Server.Change (texts : List String) (commits rollbacks : Nat) (server server' : Server) :
    Prop where
  journal : server'.journal = server.journal ++ texts
  commits : server'.counters.commits = server.counters.commits + commits
  rollbacks : server'.counters.rollbacks = server.counters.rollbacks + rollbacks
  refusesConnect : server'.faults.connect = server.faults.connect
  refusesCommit : server'.faults.commit = server.faults.commit
  refusesRollback : server'.faults.rollback = server.faults.rollback

structure Server.Obliging (server : Server) : Prop where
  commit : server.faults.commit = false
  rollback : server.faults.rollback = false

namespace Server.Change

variable {texts texts' : List String} {commits commits' rollbacks rollbacks' : Nat}
  {server server' server'' : Server}

theorem refl (server : Server) : Change [] 0 0 server server := by
  constructor <;> simp

theorem trans (h : Change texts commits rollbacks server server')
    (h' : Change texts' commits' rollbacks' server' server'') :
    Change (texts ++ texts') (commits + commits') (rollbacks + rollbacks') server server'' where
  journal := by rw [h'.journal, h.journal, List.append_assoc]
  commits := by rw [h'.commits, h.commits, Nat.add_assoc]
  rollbacks := by rw [h'.rollbacks, h.rollbacks, Nat.add_assoc]
  refusesConnect := h'.refusesConnect.trans h.refusesConnect
  refusesCommit := h'.refusesCommit.trans h.refusesCommit
  refusesRollback := h'.refusesRollback.trans h.refusesRollback

theorem obliging (h : Change texts commits rollbacks server server') (obliging : server.Obliging) :
    server'.Obliging :=
  ⟨h.refusesCommit.trans obliging.commit, h.refusesRollback.trans obliging.rollback⟩

end Server.Change

namespace Server

theorem connect_change (server : Server) : Change [] 0 0 server server.connect.2 := by
  simp only [connect]
  split <;> constructor <;> simp

theorem pending_of_connect {server : Server} {link : Link} (opened : server.connect.1 = .ok link) :
    link.pending = none := by
  simp only [connect] at opened
  split at opened <;> cases opened
  rfl

end Server

open Server (Change)

namespace Link

variable (link : Link) (server : Server)

theorem ping_change : Change [] 0 0 server (link.ping server).2 := by
  simp only [ping]
  split <;> constructor <;> simp

theorem fetch_change (sql : String) : Change [] 0 0 server (link.fetch sql server).2 := by
  simp only [fetch]
  split <;> constructor <;> simp

theorem begin_cases :
    (∃ error server', link.begin server = (.error error, link, server') ∧
      Change [] 0 0 server server') ∨
    ∃ server', link.begin server = (.ok (), ⟨some []⟩, server') ∧ Change [] 0 0 server server' := by
  simp only [begin]
  cases link.pending with
  | some texts => exact .inl ⟨_, _, rfl, by constructor <;> simp⟩
  | none =>
    by_cases hf : server.faults.begin = true
    · exact .inl ⟨_, _, if_pos hf, by constructor <;> simp⟩
    · exact .inr ⟨_, if_neg hf, by constructor <;> simp⟩

theorem commit_cases :
    (∃ error server', link.commit server = (.error error, link, server') ∧
      Change [] 1 0 server server' ∧ (link.pending = none ∨ server.faults.commit = true)) ∨
    ∃ texts server', link.pending = some texts ∧ link.commit server = (.ok (), ⟨none⟩, server') ∧
      Change texts 1 0 server server' := by
  simp only [commit]
  cases link.pending with
  | none => exact .inl ⟨_, _, rfl, by constructor <;> simp, .inl rfl⟩
  | some texts =>
    by_cases hf : server.faults.commit = true
    · exact .inl ⟨_, _, if_pos hf, by constructor <;> simp, .inr hf⟩
    · exact .inr ⟨texts, _, rfl, if_neg hf, by constructor <;> simp [Server.publish]⟩

theorem rollback_cases :
    (∃ error server', link.rollback server = (.error error, link, server') ∧
      Change [] 0 1 server server' ∧ (link.pending = none ∨ server.faults.rollback = true)) ∨
    ∃ texts server', link.pending = some texts ∧ link.rollback server = (.ok (), ⟨none⟩, server') ∧
      Change [] 0 1 server server' := by
  simp only [rollback]
  cases link.pending with
  | none => exact .inl ⟨_, _, rfl, by constructor <;> simp, .inl rfl⟩
  | some texts =>
    by_cases hf : server.faults.rollback = true
    · exact .inl ⟨_, _, if_pos hf, by constructor <;> simp, .inr hf⟩
    · exact .inr ⟨texts, _, rfl, if_neg hf, by constructor <;> simp⟩

theorem execute_answer (sql : String) : (link.execute sql server).1 = Server.statementCount sql := by
  simp only [execute]
  cases Server.statementCount sql with
  | error error => rfl
  | ok count => cases link.pending <;> rfl

theorem execute_cases (sql : String) :
    (∃ error server', link.execute sql server = (.error error, link, server') ∧
      Change [] 0 0 server server') ∨
    (∃ count server', link.pending = none ∧ link.execute sql server = (.ok count, link, server') ∧
      Change [sql] 0 0 server server') ∨
    ∃ count texts server', link.pending = some texts ∧
      link.execute sql server = (.ok count, ⟨some (texts ++ [sql])⟩, server') ∧
      Change [] 0 0 server server' := by
  simp only [execute]
  cases Server.statementCount sql with
  | error error => exact .inl ⟨_, _, rfl, by constructor <;> simp⟩
  | ok count =>
    cases link.pending with
    | none => exact .inr (.inl ⟨count, _, rfl, rfl, by constructor <;> simp [Server.publish]⟩)
    | some texts => exact .inr (.inr ⟨count, texts, _, rfl, rfl, by constructor <;> simp⟩)

end Link

end NestedTx
