import NestedTx.Proofs.Console.Actions

namespace NestedTx

structure Session where
  db : Database
  consoles : List Console

inductive Request
  | act (action : Action)
  | leave (way : Scope.Way) (scope : Scope)
  | openConsole
  | line (i : Nat) (text : String)
  | close (i : Nat)

namespace Session

def start (server : Server) (settings : Settings) : Session := ⟨.on server settings, []⟩

def scopes (session : Session) : List Nat := session.consoles.flatMap Console.scopes

def spares (session : Session) (ref : Nat) : Bool := session.scopes.count ref < session.db.handles ref

def step (session : Session) : Request → Session
  | .act action =>
    if action.drops.all session.spares then { session with db := (action.perform session.db).2 }
    else session
  | .leave way scope =>
    if session.spares scope.ref then { session with db := scope.leave way session.db } else session
  | .openConsole => { session with consoles := session.consoles ++ [.new] }
  | .line i text =>
    match session.consoles[i]? with
    | none => session
    | some console =>
      match console.executeLine text session.db with
      | (_, console, db) => ⟨db, session.consoles.set i console⟩
  | .close i =>
    match session.consoles[i]? with
    | none => session
    | some console =>
      match console.close session.db with
      | (_, console, db) => ⟨db, session.consoles.set i console⟩

def steps (session : Session) (requests : List Request) : Session := requests.foldl step session

def actions (session : Session) : Request → List Action
  | .act action => if action.drops.all session.spares then [action] else []
  | .leave way scope => if session.spares scope.ref then scope.actions way else []
  | .openConsole => []
  | .line i text =>
    match session.consoles[i]? with
    | none => []
    | some console => console.lineActions text
  | .close i =>
    match session.consoles[i]? with
    | none => []
    | some console => console.closeActions

def actionsOf : Session → List Request → List Action
  | _, [] => []
  | session, request :: requests =>
    session.actions request ++ actionsOf (session.step request) requests

def top? (session : Session) (i : Nat) : Option Nat :=
  session.consoles[i]?.bind fun console => console.scopes.head?

def about (session : Session) : Request → Option Nat
  | .act action => action.root?
  | .leave _ scope => some scope.ref
  | .openConsole => none
  | .line i _ => session.top? i
  | .close i => session.top? i

structure Sound (session : Session) : Prop where
  counted : ∀ ref, session.scopes.count ref ≤ session.db.handles ref
  alike : ∀ console ∈ session.consoles, console.Alike

theorem count_scopes_set {consoles : List Console} {i : Nat} {console : Console}
    (known : consoles[i]? = some console) (console' : Console) (ref : Nat) :
    ((consoles.set i console').flatMap Console.scopes).count ref + console.scopes.count ref =
      (consoles.flatMap Console.scopes).count ref + console'.scopes.count ref := by
  induction consoles generalizing i with
  | nil => cases known
  | cons first rest ih =>
    cases i with
    | zero =>
      cases known
      simp only [List.set_cons_zero, List.flatMap_cons, List.count_append]
      omega
    | succ i =>
      have rest := ih known
      simp only [List.set_cons_succ, List.flatMap_cons, List.count_append]
      omega

namespace Sound

variable {session : Session} {console console' : Console} {db' : Database} {actions : List Action}

theorem start (server : Server) (settings : Settings) : (Session.start server settings).Sound :=
  ⟨fun _ => Nat.zero_le _, nofun⟩

theorem console_counted (h : session.Sound) {i : Nat} (known : session.consoles[i]? = some console) :
    console.Counted session.db := by
  intro ref
  have all := count_scopes_set known .new ref
  have enough := h.counted ref
  rw [scopes] at enough
  have none : (Console.new).scopes.count ref = 0 := rfl
  omega

theorem does (h : session.Sound) {i : Nat} (known : session.consoles[i]? = some console)
    (does : console.Does session.db actions console' db') :
    Sound ⟨db', session.consoles.set i console'⟩ where
  counted ref := by
    have all := count_scopes_set known console' ref
    have kept := does.handles ref
    have enough := h.counted ref
    rw [scopes] at enough ⊢
    dsimp only
    omega
  alike other mem := by
    rcases List.mem_or_eq_of_mem_set mem with mem | rfl
    · exact h.alike other mem
    · exact does.alike (h.alike console (List.mem_of_getElem? known))

theorem after (h : session.Sound) (gone : Option Nat)
    (drops : actions.flatMap Action.drops = gone.toList)
    (spared : ∀ ref, gone = some ref → session.spares ref = true) :
    Sound { session with db := session.db.after actions } where
  counted ref := by
    have lost := Database.handles_le_after actions session.db ref
    have enough := h.counted ref
    rw [drops] at lost
    show session.scopes.count ref ≤ (session.db.after actions).handles ref
    -- A user has a handle beside those of the consoles, so one less is enough for them.
    by_cases hit : gone = some ref
    · have more := spared ref hit
      rw [hit, Option.toList_some, List.count_singleton_self] at lost
      simp only [spares, decide_eq_true_eq] at more
      omega
    · have kept : gone.toList.count ref = 0 := by
        rw [List.count_eq_zero, Option.mem_toList]
        exact hit
      omega
  alike := h.alike

theorem step (h : session.Sound) (request : Request) :
    (session.step request).db = session.db.after (session.actions request) ∧
      (session.step request).Sound := by
  cases request with
  | act action =>
    simp only [Session.step, Session.actions]
    split
    · rename_i spared
      have acted : ({ session with db := (action.perform session.db).2 } : Session) =
          { session with db := session.db.after [action] } := rfl
      rw [acted]
      refine ⟨rfl, ?_⟩
      obtain ⟨gone, drops⟩ := action.exists_drops
      refine h.after gone (by simp [drops]) fun ref hit => ?_
      rw [drops, hit, Option.toList_some, List.all_cons] at spared
      exact (Bool.and_eq_true_iff.mp spared).1
    · exact ⟨rfl, h⟩
  | leave way scope =>
    simp only [Session.step, Session.actions]
    split
    · rename_i spared
      have held : session.db.isHeld scope.ref = true := by
        simp only [spares, decide_eq_true_eq] at spared
        exact Database.isHeld_iff.mpr (Nat.zero_lt_of_lt spared)
      rw [Scope.leave_eq held way]
      have drops : (scope.actions way).flatMap Action.drops = (some scope.ref).toList :=
        scope.drops_actions way
      refine ⟨rfl, h.after _ drops ?_⟩
      rintro ref ⟨⟩
      exact spared
    · exact ⟨rfl, h⟩
  | openConsole =>
    refine ⟨rfl, fun ref => ?_, fun console mem => ?_⟩
    · have same : (session.step .openConsole).scopes = session.scopes := by
        simp [Session.step, scopes, Console.new]
      rw [same]
      exact h.counted ref
    · rcases List.mem_append.mp mem with mem | mem
      · exact h.alike console mem
      · rw [List.mem_singleton.mp mem]
        nofun
  | line i text =>
    simp only [Session.step, Session.actions]
    cases known : session.consoles[i]? with
    | none => exact ⟨rfl, h⟩
    | some console =>
      have does := Console.executeLine_does (h.console_counted known) text
      dsimp only
      generalize console.executeLine text session.db = did at does ⊢
      exact ⟨does.did, h.does known does⟩
  | close i =>
    simp only [Session.step, Session.actions]
    cases known : session.consoles[i]? with
    | none => exact ⟨rfl, h⟩
    | some console =>
      have does := Console.close_does (h.console_counted known)
      dsimp only
      generalize console.close session.db = did at does ⊢
      exact ⟨does.did, h.does known does⟩

theorem steps (h : session.Sound) (requests : List Request) :
    (session.steps requests).db = session.db.after (session.actionsOf requests) ∧
      (session.steps requests).Sound := by
  induction requests generalizing session with
  | nil => exact ⟨rfl, h⟩
  | cons request requests ih =>
    obtain ⟨did, sound⟩ := h.step request
    obtain ⟨rest, sound⟩ := ih sound
    refine ⟨?_, sound⟩
    rw [Session.actionsOf, Database.after_append, ← did]
    exact rest

theorem top?_eq (h : session.Sound) {i : Nat} (known : session.consoles[i]? = some console)
    {ref : Nat} (mem : ref ∈ console.scopes) : session.top? i = some ref := by
  have alike := h.alike console (List.mem_of_getElem? known)
  simp only [top?, known, Option.bind_some]
  cases scopes : console.scopes with
  | nil =>
    rw [scopes] at mem
    cases mem
  | cons top below =>
    have first : top ∈ console.scopes := by
      rw [scopes]
      exact List.mem_cons_self
    rw [List.head?_cons, alike top first ref mem]

theorem about_eq (h : session.Sound) {request : Request} {action : Action}
    (mem : action ∈ session.actions request) {ref : Nat} (about : action.root? = some ref) :
    session.about request = some ref := by
  cases request with
  | act asked =>
    simp only [Session.actions] at mem
    split at mem
    · rw [← List.mem_singleton.mp mem]
      exact about
    · cases mem
  | leave way scope =>
    simp only [Session.actions] at mem
    split at mem
    · rw [Scope.root_of_actions mem] at about
      exact about
    · cases mem
  | openConsole => cases mem
  | line i text =>
    simp only [Session.actions] at mem
    cases known : session.consoles[i]? with
    | none =>
      rw [known] at mem
      cases mem
    | some console =>
      rw [known] at mem
      have does := Console.executeLine_does (h.console_counted known) text
      exact h.top?_eq known (does.about action mem ref about)
  | close i =>
    simp only [Session.actions] at mem
    cases known : session.consoles[i]? with
    | none =>
      rw [known] at mem
      cases mem
    | some console =>
      rw [known] at mem
      have does := Console.close_does (h.console_counted known)
      exact h.top?_eq known (does.about action mem ref about)

theorem entries_other (h : session.Sound) {request : Request} {other : Nat}
    (ne : session.about request ≠ some other) {entry : Entry}
    (known : session.db.entries[other]? = some entry) :
    (session.step request).db.entries[other]? = some entry := by
  rw [(h.step request).1]
  exact Database.entries_after (fun _ mem about => ne (h.about_eq mem about)) known

end Sound

end Session

end NestedTx
