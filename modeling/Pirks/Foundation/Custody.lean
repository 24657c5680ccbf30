import Mathlib.Logic.Function.Basic
import Mathlib.Tactic.Common

set_option autoImplicit false

namespace Custody

variable {Token : Type}

/-- What happens to a token that is owned for a while: it is taken over, and then it is either given
back or disposed of. A disposal records whether the token was still open. -/
inductive Event (Token : Type) where
  | took (token : Token)
  | gaveBack (token : Token)
  | disposed (token : Token) (wasOpen : Bool)
  deriving DecidableEq

def Event.token : Event Token → Token
  | .took token | .gaveBack token | .disposed token _ => token

def Event.after : Event Token → Nat → Option Nat
  | .took _, 0 => some 1
  | .gaveBack _, 1 => some 0
  | .disposed _ _, 1 => some 0
  | _, _ => none

variable [DecidableEq Token]

def follow (token : Token) (owners : Nat) (event : Event Token) : Option Nat :=
  if event.token = token then event.after owners else some owners

def custody (token : Token) (log : List (Event Token)) : Option Nat := log.foldlM (follow token) 0

theorem custody_append (token : Token) (log new : List (Event Token)) :
    custody token (log ++ new) = (custody token log).bind fun owners => new.foldlM (follow token) owners := by
  simp [custody, List.foldlM_append]

theorem custody_snoc {token : Token} {log : List (Event Token)} {owners : Nat} (event : Event Token)
    (settled : custody token log = some owners) :
    custody token (log ++ [event]) = follow token owners event := by
  simp [custody_append, settled]

def Event.starts : Event Token → Bool
  | .took _ => true
  | _ => false

def Event.returns : Event Token → Bool
  | .gaveBack _ => true
  | _ => false

def Event.disposes : Event Token → Bool
  | .disposed _ _ => true
  | _ => false

def tally (kind : Event Token → Bool) (token : Token) (log : List (Event Token)) : Nat :=
  log.countP fun event => event.token = token && kind event

theorem follow_tally {token : Token} {event : Event Token} {before after : Nat}
    (followed : follow token before event = some after) :
    before + tally Event.starts token [event] =
      tally Event.returns token [event] + tally Event.disposes token [event] + after := by
  unfold follow at followed
  split at followed
  next about =>
    cases event <;> rcases before with _ | _ | _ <;>
      simp_all [tally, Event.token, Event.after, Event.starts, Event.returns, Event.disposes]
  next other =>
    cases followed
    simp [tally, other]

theorem foldlM_tally {token : Token} {log : List (Event Token)} {before owners : Nat}
    (settled : log.foldlM (follow token) before = some owners) :
    before + tally Event.starts token log =
      tally Event.returns token log + tally Event.disposes token log + owners := by
  induction log generalizing before with
  | nil =>
    have same : before = owners := by simpa using settled
    simp [tally, same]
  | cons event rest ih =>
    rw [List.foldlM_cons] at settled
    cases followed : follow token before event with
    | none => simp [followed] at settled
    | some middle =>
      have here := follow_tally followed
      have later := ih (by simpa [followed] using settled)
      simp only [tally, List.countP_cons, List.countP_nil] at here later ⊢
      omega

theorem custody_tally {token : Token} {log : List (Event Token)} {owners : Nat}
    (settled : custody token log = some owners) :
    tally Event.starts token log =
      tally Event.returns token log + tally Event.disposes token log + owners := by
  have counted := foldlM_tally settled
  omega

theorem custody_le_one {token : Token} {log : List (Event Token)} {before owners : Nat}
    (low : before ≤ 1) (settled : log.foldlM (follow token) before = some owners) : owners ≤ 1 := by
  induction log generalizing before with
  | nil =>
    have same : before = owners := by simpa using settled
    omega
  | cons event rest ih =>
    rw [List.foldlM_cons] at settled
    cases followed : follow token before event with
    | none => simp [followed] at settled
    | some middle =>
      refine ih ?_ (by simpa [followed] using settled)
      unfold follow at followed
      split at followed
      next about => cases event <;> rcases before with _ | _ | _ <;> simp [Event.after] at followed <;> omega
      next other =>
        cases followed
        exact low

/-- A ledger of who owns what: the events so far account for the present owners, owned tokens are
open, and only open tokens were disposed of. -/
structure Ledger (Real : Token → Prop) (owners : Token → Nat) (isOpen : Token → Bool)
    (log : List (Event Token)) : Prop where
  settled : ∀ token, Real token → custody token log = some (owners token)
  owned_open : ∀ token, Real token → 0 < owners token → isOpen token = true
  disposed_open : ∀ token wasOpen, .disposed token wasOpen ∈ log → Real token ∧ wasOpen = true

variable {Real : Token → Prop} {owners owners' : Token → Nat} {isOpen : Token → Bool}
  {log : List (Event Token)} {token : Token}

theorem Ledger.empty : Ledger Real (fun _ => 0) isOpen [] where
  settled := fun _ _ => rfl
  owned_open := fun _ _ owned => absurd owned (Nat.lt_irrefl 0)
  disposed_open := fun _ _ member => absurd member List.not_mem_nil

theorem Ledger.owners_le_one (ledger : Ledger Real owners isOpen log) (real : Real token) :
    owners token ≤ 1 :=
  custody_le_one (Nat.zero_le 1) (ledger.settled token real)

theorem Ledger.rearrange (ledger : Ledger Real owners isOpen log)
    (same : ∀ token, Real token → owners' token = owners token) : Ledger Real owners' isOpen log where
  settled := fun token real => by rw [same token real, ledger.settled token real]
  owned_open := fun token real owned => ledger.owned_open token real (by rwa [← same token real])
  disposed_open := ledger.disposed_open

theorem Ledger.record (ledger : Ledger Real owners isOpen log) (event : Event Token)
    (isOpen' : Token → Bool)
    (moved : Real event.token → event.after (owners event.token) = some (owners' event.token))
    (others : ∀ token, Real token → token ≠ event.token → owners' token = owners token)
    (opened : ∀ token, Real token → 0 < owners' token → isOpen' token = true)
    (found : ∀ wasOpen, event = .disposed event.token wasOpen → Real event.token ∧ wasOpen = true) :
    Ledger Real owners' isOpen' (log ++ [event]) where
  settled := by
    intro token real
    rw [custody_snoc event (ledger.settled token real), follow]
    split
    next about =>
      subst about
      exact moved real
    next other => rw [others token real (Ne.symm other)]
  owned_open := opened
  disposed_open := by
    intro token wasOpen member
    rcases List.mem_append.mp member with old | recent
    · exact ledger.disposed_open token wasOpen old
    · have same := List.mem_singleton.mp recent
      subst same
      exact found wasOpen rfl

theorem Ledger.take (ledger : Ledger Real owners isOpen log)
    (fresh : Real token → isOpen token = true ∧ owners token = 0)
    (moved : ∀ other, Real other → owners' other = owners other + if other = token then 1 else 0) :
    Ledger Real owners' isOpen (log ++ [.took token]) := by
  refine ledger.record (.took token) isOpen ?_ ?_ ?_ (fun _ same => by cases same)
  · intro real
    simp [Event.token, Event.after, moved token real, (fresh real).2]
  · intro other real distinct
    have apart : other ≠ token := distinct
    simp [moved other real, apart]
  · intro other real owned
    by_cases same : other = token
    · subst same
      exact (fresh real).1
    · rw [moved other real, if_neg same] at owned
      exact ledger.owned_open other real owned

theorem Ledger.giveBack (ledger : Ledger Real owners isOpen log) (owned : 0 < owners token)
    (moved : ∀ other, Real other → owners' other + (if other = token then 1 else 0) = owners other) :
    Ledger Real owners' isOpen (log ++ [.gaveBack token]) := by
  refine ledger.record (.gaveBack token) isOpen ?_ ?_ ?_ (fun _ same => by cases same)
  · intro (real : Real token)
    have one := ledger.owners_le_one real
    have here := moved token real
    simp only [if_true] at here
    have count : owners token = 1 := by omega
    have none_ : owners' token = 0 := by omega
    simp [Event.token, Event.after, count, none_]
  · intro other real distinct
    have apart : other ≠ token := distinct
    simpa [apart] using moved other real
  · intro other real still
    have here := moved other real
    exact ledger.owned_open other real (by omega)

theorem Ledger.dispose (ledger : Ledger Real owners isOpen log) (real : Real token)
    (owned : 0 < owners token)
    (moved : ∀ other, Real other → owners' other + (if other = token then 1 else 0) = owners other) :
    Ledger Real owners' (Function.update isOpen token false) (log ++ [.disposed token (isOpen token)]) := by
  refine ledger.record (.disposed token (isOpen token)) _ ?_ ?_ ?_ ?_
  · intro _
    have one := ledger.owners_le_one real
    have here := moved token real
    simp only [if_true] at here
    have count : owners token = 1 := by omega
    have none_ : owners' token = 0 := by omega
    simp [Event.token, Event.after, count, none_]
  · intro other real distinct
    have apart : other ≠ token := distinct
    simpa [apart] using moved other real
  · intro other real still
    have here := moved other real
    by_cases same : other = token
    · subst same
      have one := ledger.owners_le_one real
      rw [if_pos rfl] at here
      omega
    · rw [Function.update_of_ne same]
      exact ledger.owned_open other real (by omega)
  · intro wasOpen same
    have found : isOpen token = wasOpen := by
      injection same
    rw [← found]
    exact ⟨real, ledger.owned_open token real owned⟩

theorem Ledger.elsewhere (ledger : Ledger Real owners isOpen log) (status : Bool)
    (loose : status = false → Real token → owners token = 0) :
    Ledger Real owners (Function.update isOpen token status) log where
  settled := ledger.settled
  owned_open := by
    intro other real owned
    by_cases same : other = token
    · subst same
      rw [Function.update_self]
      cases status with
      | true => rfl
      | false =>
        have none_ := loose rfl real
        omega
    · rw [Function.update_of_ne same]
      exact ledger.owned_open other real owned
  disposed_open := ledger.disposed_open

end Custody
