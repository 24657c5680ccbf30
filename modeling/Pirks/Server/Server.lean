import Pirks.Foundation.Execution
import Pirks.Foundation.Machine
import Pirks.Foundation.SharedHeap

set_option autoImplicit false

namespace Pirks

open Execution
open SharedHeap (Pointer)

inductive ConnectionType where
  | Default
  | UDP
  | TCP
  deriving DecidableEq

inductive Transport where
  | UDPConnection
  | TCPConnection
  deriving DecidableEq

-- Both classes have the same members; the two queues are weak pointers.
structure Connection where
  transport : Transport
  stop : Bool
  inPackets : Pointer
  outPackets : Pointer
  deriving DecidableEq

namespace Connection

def construct (transport : Transport) : Connection := ⟨transport, false, none, none⟩

def create (self : Connection) (inPackets outPackets : Pointer) : Connection :=
  { self with inPackets, outPackets }

def destruct (self : Connection) : Connection := { self with stop := true }

end Connection

structure Server where
  connectionType : ConnectionType
  connection : Option Connection
  inPackets : Pointer
  outPackets : Pointer

structure Process where
  heap : SharedHeap
  server : Server
  made : List Transport
  gone : List Connection

inductive BadAlloc where
  | badAlloc

inductive Allocation where
  | inPackets
  | inPacketsControl
  | outPackets
  | outPacketsControl
  | connection
  deriving DecidableEq

namespace Server

def construct (connectionType : ConnectionType) : Server := ⟨connectionType, none, none, none⟩

abbrev Run (A : Type) := Procedure BadAlloc Process A

def allocate (failing : Option Allocation) (what : Allocation) : Run Unit :=
  if failing = some what then throw .badAlloc else return ()

def renewInPackets (process : Process) : Process :=
  let (heap, inPackets) := process.heap.reset process.server.inPackets
  { process with heap, server := { process.server with inPackets } }

def renewOutPackets (process : Process) : Process :=
  let (heap, outPackets) := process.heap.reset process.server.outPackets
  { process with heap, server := { process.server with outPackets } }

-- unique_ptr::reset: the old connection is destroyed after the new one is in its place.
def renewConnection (transport : Transport) (process : Process) : Process :=
  { process with
    server := { process.server with connection := some (.construct transport) }
    made := process.made ++ [transport]
    gone := process.gone ++ (process.server.connection.map Connection.destruct).toList }

-- The arguments of create() are copies of the server's pointers for as long as the call lasts.
def createConnection (process : Process) : Process :=
  let inPackets := process.server.inPackets
  let outPackets := process.server.outPackets
  { process with
    heap := (((process.heap.copy inPackets).copy outPackets).drop outPackets).drop inPackets
    server := { process.server with
      connection := process.server.connection.map fun connection => connection.create inPackets outPackets } }

def run (failing : Option Allocation) : Run Unit := do
  allocate failing .inPackets
  allocate failing .inPacketsControl
  modify renewInPackets
  allocate failing .outPackets
  allocate failing .outPacketsControl
  modify renewOutPackets
  match (← get).server.connectionType with
  | .Default | .UDP =>
      allocate failing .connection
      modify (renewConnection .UDPConnection)
  | .TCP =>
      allocate failing .connection
      modify (renewConnection .TCPConnection)
  modify createConnection

def dropConnection (process : Process) : Process :=
  { process with
    server := { process.server with connection := none }
    gone := process.gone ++ (process.server.connection.map Connection.destruct).toList }

def dropInPackets (process : Process) : Process :=
  { process with
    heap := process.heap.drop process.server.inPackets
    server := { process.server with inPackets := none } }

def dropOutPackets (process : Process) : Process :=
  { process with
    heap := process.heap.drop process.server.outPackets
    server := { process.server with outPackets := none } }

def stop (process : Process) : Process := dropOutPackets (dropInPackets (dropConnection process))

-- The members go in the reverse order of their declarations.
def destruct (process : Process) : Process := dropConnection (dropInPackets (dropOutPackets process))

def reached (process : Process) : Option Allocation → Process
  | some .inPackets | some .inPacketsControl => process
  | some .outPackets | some .outPacketsControl => renewInPackets process
  | some .connection => renewOutPackets (renewInPackets process)
  | none =>
      let renewed := renewOutPackets (renewInPackets process)
      createConnection (renewConnection
        (if process.server.connectionType = .TCP then .TCPConnection else .UDPConnection) renewed)

theorem perform_run (failing : Option Allocation) (process : Process) :
    perform (run failing) process =
      (if failing = none then .ok () else .error .badAlloc, reached process failing) := by
  rcases failing with _ | failing
  · cases kind : process.server.connectionType <;>
      simp [run, allocate, perform_bind, renewInPackets, renewOutPackets, reached, kind]
  · cases failing
    case connection =>
      cases kind : process.server.connectionType <;>
        simp [run, allocate, perform_bind, renewInPackets, renewOutPackets, reached, kind]
    all_goals simp [run, allocate, perform_bind, reached]

/-- A weak pointer to a queue of the server: to the one in `slot`, or to one that the server let go. -/
def Watches (process : Process) (weak slot : Pointer) : Prop :=
  ∀ id, weak = some id → id < process.heap.fresh ∧
    (slot = some id ∨ process.server.inPackets ≠ some id ∧ process.server.outPackets ≠ some id)

structure Owned (process : Process) : Prop where
  accounts : process.heap.Accounts [process.server.inPackets, process.server.outPackets]
  apart : ∀ id, process.server.inPackets = some id → process.server.outPackets ≠ some id
  watches : ∀ connection, process.server.connection = some connection →
    Watches process connection.inPackets process.server.inPackets ∧
      Watches process connection.outPackets process.server.outPackets
  counted : process.made.length = process.gone.length + process.server.connection.toList.length
  ended : ∀ connection ∈ process.gone, connection.stop = true

variable {process : Process}

theorem Owned.lock_cases (owned : Owned process) {weak slot : Pointer} (watches : Watches process weak slot) :
    process.heap.lock weak = none ∨ process.heap.lock weak = slot := by
  cases weak with
  | none => exact .inl rfl
  | some id =>
    rw [SharedHeap.lock_eq]
    split
    next alive =>
      rcases (watches id rfl).2 with same | ⟨notIn, notOut⟩
      · exact .inr same.symm
      · rw [owned.accounts.counts id] at alive
        simp [notIn, notOut] at alive
    next => exact .inl rfl

-- The pointers of the server may be renewed or dropped; a weak pointer that is left behind reaches nothing.
theorem Owned.watches_after (owned : Owned process) {after : Process} {connection : Connection}
    (grown : process.heap.fresh ≤ after.heap.fresh)
    (inherited : ∀ id, id < process.heap.fresh →
      (after.server.inPackets = some id → process.server.inPackets = some id) ∧
        (after.server.outPackets = some id → process.server.outPackets = some id))
    (found : process.server.connection = some connection) :
    Watches after connection.inPackets after.server.inPackets ∧
      Watches after connection.outPackets after.server.outPackets := by
  obtain ⟨watchesIn, watchesOut⟩ := owned.watches connection found
  constructor <;> intro id weak
  · obtain ⟨old, reaches⟩ := watchesIn id weak
    obtain ⟨sameIn, sameOut⟩ := inherited id old
    refine ⟨Nat.lt_of_lt_of_le old grown, ?_⟩
    rcases reaches with mine | ⟨notIn, notOut⟩
    · have notOut := owned.apart id mine
      by_cases still : after.server.inPackets = some id
      · exact .inl still
      · exact .inr ⟨still, fun out => notOut (sameOut out)⟩
    · exact .inr ⟨fun in_ => notIn (sameIn in_), fun out => notOut (sameOut out)⟩
  · obtain ⟨old, reaches⟩ := watchesOut id weak
    obtain ⟨sameIn, sameOut⟩ := inherited id old
    refine ⟨Nat.lt_of_lt_of_le old grown, ?_⟩
    rcases reaches with mine | ⟨notIn, notOut⟩
    · by_cases still : after.server.outPackets = some id
      · exact .inl still
      · exact .inr ⟨fun in_ => owned.apart id (sameIn in_) mine, still⟩
    · exact .inr ⟨fun in_ => notIn (sameIn in_), fun out => notOut (sameOut out)⟩

theorem Owned.fresh_unused (owned : Owned process) :
    process.server.inPackets ≠ some process.heap.fresh ∧ process.server.outPackets ≠ some process.heap.fresh := by
  constructor <;> intro held
  · have old := (owned.accounts.lt_fresh (List.mem_cons.mpr (.inl held.symm))).1
    omega
  · have old := (owned.accounts.lt_fresh (List.mem_cons_of_mem _ (List.mem_cons.mpr (.inl held.symm)))).1
    omega

theorem Owned.renewInPackets (owned : Owned process) : Owned (renewInPackets process) where
  accounts := owned.accounts.reset
  apart := by
    intro id new out
    cases new
    exact owned.fresh_unused.2 out
  watches := fun connection found => by
    refine owned.watches_after ?_ (fun id old => ⟨fun new => ?_, fun same => same⟩) found
    · simp [Server.renewInPackets, SharedHeap.reset, SharedHeap.make]
    · cases new
      exact absurd old (Nat.lt_irrefl _)
  counted := owned.counted
  ended := owned.ended

theorem Owned.renewOutPackets (owned : Owned process) : Owned (renewOutPackets process) where
  accounts := ((owned.accounts.perm (List.Perm.swap _ _ _)).reset).perm (List.Perm.swap _ _ _)
  apart := by
    intro id in_ new
    cases new
    exact owned.fresh_unused.1 in_
  watches := fun connection found => by
    refine owned.watches_after ?_ (fun id old => ⟨fun same => same, fun new => ?_⟩) found
    · simp [Server.renewOutPackets, SharedHeap.reset, SharedHeap.make]
    · cases new
      exact absurd old (Nat.lt_irrefl _)
  counted := owned.counted
  ended := owned.ended

theorem Owned.destroyed (owned : Owned process) :
    (process.gone ++ (process.server.connection.map Connection.destruct).toList).length =
        process.gone.length + process.server.connection.toList.length ∧
      ∀ connection ∈ process.gone ++ (process.server.connection.map Connection.destruct).toList,
        connection.stop = true := by
  refine ⟨by cases process.server.connection <;> simp, fun connection member => ?_⟩
  rcases List.mem_append.mp member with old | new
  · exact owned.ended connection old
  · cases held : process.server.connection <;> simp [held] at new
    simp [new, Connection.destruct]

theorem Owned.renewConnection (owned : Owned process) (transport : Transport) :
    Owned (renewConnection transport process) where
  accounts := owned.accounts
  apart := owned.apart
  watches := by
    intro connection found
    cases found
    constructor <;> intro id weak <;> cases weak
  counted := by
    have counted := owned.counted
    have destroyed := owned.destroyed.1
    simp only [Server.renewConnection, List.length_append, List.length_singleton, Option.toList_some] at destroyed ⊢
    omega
  ended := owned.destroyed.2

theorem Owned.createConnection (owned : Owned process) : Owned (createConnection process) where
  accounts := by
    have first := owned.accounts.copy (List.mem_cons_self)
    have second := first.copy (List.mem_cons_of_mem _ (List.mem_cons_of_mem _ List.mem_cons_self))
    exact second.drop.drop
  apart := owned.apart
  watches := by
    intro connection found
    obtain ⟨before, held, same⟩ := Option.map_eq_some_iff.mp found
    subst same
    constructor <;> intro id weak
    · refine ⟨?_, .inl weak⟩
      simpa [Server.createConnection] using (owned.accounts.lt_fresh (List.mem_cons.mpr (.inl weak.symm))).1
    · refine ⟨?_, .inl weak⟩
      simpa [Server.createConnection] using
        (owned.accounts.lt_fresh (List.mem_cons_of_mem _ (List.mem_cons.mpr (.inl weak.symm)))).1
  counted := by
    have counted := owned.counted
    cases held : process.server.connection <;> simpa [Server.createConnection, held] using counted
  ended := owned.ended

theorem Owned.dropConnection (owned : Owned process) : Owned (dropConnection process) where
  accounts := owned.accounts
  apart := owned.apart
  watches := fun _ found => by cases found
  counted := by
    have counted := owned.counted
    have destroyed := owned.destroyed.1
    simp only [Server.dropConnection, Option.toList_none, List.length_nil] at destroyed ⊢
    omega
  ended := owned.destroyed.2

theorem Owned.dropInPackets (owned : Owned process) : Owned (dropInPackets process) where
  accounts := (owned.accounts.drop.none)
  apart := fun _ none_ => by cases none_
  watches := fun connection found => by
    refine owned.watches_after ?_ (fun id old => ⟨fun none_ => ?_, fun same => same⟩) found
    · simp [Server.dropInPackets]
    · cases none_
  counted := owned.counted
  ended := owned.ended

theorem Owned.dropOutPackets (owned : Owned process) : Owned (dropOutPackets process) where
  accounts := ((owned.accounts.perm (List.Perm.swap _ _ _)).drop.none).perm (List.Perm.swap _ _ _)
  apart := fun _ _ none_ => by cases none_
  watches := fun connection found => by
    refine owned.watches_after ?_ (fun id old => ⟨fun same => same, fun none_ => ?_⟩) found
    · simp [Server.dropOutPackets]
    · cases none_
  counted := owned.counted
  ended := owned.ended

theorem Owned.reached (owned : Owned process) (failing : Option Allocation) : Owned (reached process failing) := by
  rcases failing with _ | failing
  · exact (owned.renewInPackets.renewOutPackets.renewConnection _).createConnection
  · cases failing with
    | inPackets | inPacketsControl => exact owned
    | outPackets | outPacketsControl => exact owned.renewInPackets
    | connection => exact owned.renewInPackets.renewOutPackets

theorem Owned.stop (owned : Owned process) : Owned (stop process) :=
  owned.dropConnection.dropInPackets.dropOutPackets

theorem Owned.destruct (owned : Owned process) : Owned (destruct process) :=
  owned.dropOutPackets.dropInPackets.dropConnection

theorem Owned.alive_iff (owned : Owned process) (id : Nat) :
    0 < process.heap.uses id ↔ process.server.inPackets = some id ∨ process.server.outPackets = some id := by
  rw [owned.accounts.counts id, List.count_pos_iff]
  simp [eq_comm]

theorem Owned.destroyed_once (owned : Owned process) (id : Nat) (made : id < process.heap.fresh) :
    process.heap.destroyed.count id = if 0 < process.heap.uses id then 0 else 1 := by
  rw [owned.accounts.once id]
  by_cases alive : process.heap.uses id = 0 <;> simp [made, alive, Nat.pos_iff_ne_zero]

inductive Action where
  | run (failing : Option Allocation)
  | stop
  deriving DecidableEq

def apply (process : Process) : Action → Process
  | .run failing => (perform (run failing) process).2
  | .stop => stop process

structure Taken where
  action : Action
  after : Process

def step (process : Process) (action : Action) : Option (Process × List Taken) :=
  some (apply process action, [⟨action, apply process action⟩])

def start (connectionType : ConnectionType) : Process := ⟨.empty, construct connectionType, [], []⟩

theorem start_owned (connectionType : ConnectionType) : Owned (start connectionType) where
  accounts := SharedHeap.empty_accounts (by simp [start, construct])
  apart := fun _ none_ => by cases none_
  watches := fun _ found => by cases found
  counted := rfl
  ended := fun _ member => by cases member

def Serves (process : Process) : Prop :=
  ∃ connection inPackets outPackets, process.server.connection = some connection ∧ connection.stop = false ∧
    (connection.transport = .TCPConnection ↔ process.server.connectionType = .TCP) ∧
    process.server.inPackets = some inPackets ∧ process.heap.lock connection.inPackets = some inPackets ∧
    process.server.outPackets = some outPackets ∧ process.heap.lock connection.outPackets = some outPackets ∧
    inPackets ≠ outPackets

def Bare (process : Process) : Prop :=
  process.server.connection = none ∧ (∀ id, process.heap.uses id = 0) ∧
    process.made.length = process.gone.length

theorem Owned.lock_own (owned : Owned process) {id : Nat}
    (held : process.server.inPackets = some id ∨ process.server.outPackets = some id) :
    process.heap.lock (some id) = some id := by
  rw [SharedHeap.lock_eq, if_pos ((owned.alive_iff id).mpr held)]

theorem Owned.run_serves (owned : Owned process) : Serves (Server.reached process none) := by
  have after := owned.reached none
  have later : (Server.renewInPackets process).heap.fresh = process.heap.fresh + 1 := by
    simp [Server.renewInPackets, SharedHeap.reset, SharedHeap.make]
  refine ⟨_, process.heap.fresh, (Server.renewInPackets process).heap.fresh, rfl, rfl, ?_, rfl, ?_, rfl, ?_, by omega⟩
  · change (if process.server.connectionType = .TCP then Transport.TCPConnection else .UDPConnection) = _ ↔ _
    split <;> simp_all [Server.reached, Server.createConnection, Server.renewConnection, Server.renewOutPackets,
      Server.renewInPackets]
  · exact after.lock_own (.inl rfl)
  · exact after.lock_own (.inr rfl)

theorem Owned.bare (owned : Owned process) (noConnection : process.server.connection = none)
    (noIn : process.server.inPackets = none) (noOut : process.server.outPackets = none) : Bare process := by
  refine ⟨noConnection, fun id => ?_, by simpa [noConnection] using owned.counted⟩
  rw [owned.accounts.counts id, noIn, noOut]
  rfl

theorem server_owns_queues (connectionType : ConnectionType) (actions : List Action) (final : Process)
    (log : List Taken) (ran : Machine.run step (start connectionType) actions = some (final, log)) :
    (∀ id, id < final.heap.fresh →
      (0 < final.heap.uses id ↔ final.server.inPackets = some id ∨ final.server.outPackets = some id) ∧
        final.heap.destroyed.count id = if 0 < final.heap.uses id then 0 else 1) ∧
    (∀ connection, final.server.connection = some connection →
      (final.heap.lock connection.inPackets = none ∨
          final.heap.lock connection.inPackets = final.server.inPackets) ∧
        (final.heap.lock connection.outPackets = none ∨
          final.heap.lock connection.outPackets = final.server.outPackets)) ∧
    final.made.length = final.gone.length + final.server.connection.toList.length ∧
    (∀ connection ∈ final.gone, connection.stop = true) ∧
    (∀ taken ∈ log, (taken.action = .run none → Serves taken.after) ∧ (taken.action = .stop → Bare taken.after)) ∧
    Bare (destruct final) := by
  obtain ⟨owned, records⟩ := Machine.run_records Owned
    (fun taken => (taken.action = .run none → Serves taken.after) ∧ (taken.action = .stop → Bare taken.after))
    (by
      rintro process action next new (_ : True) owned taken
      cases taken
      cases action with
      | run failing =>
        rw [apply, perform_run]
        refine ⟨owned.reached failing, fun taken member => ?_⟩
        obtain rfl := List.mem_singleton.mp member
        refine ⟨fun complete => ?_, fun stops => by cases stops⟩
        cases complete
        exact owned.run_serves
      | stop =>
        refine ⟨owned.stop, fun taken member => ?_⟩
        obtain rfl := List.mem_singleton.mp member
        exact ⟨fun runs => by (cases runs), fun _ => owned.stop.bare rfl rfl rfl⟩)
    (fun _ _ => trivial) (start_owned connectionType) ran
  refine ⟨fun id made => ⟨owned.alive_iff id, owned.destroyed_once id made⟩, fun connection found => ?_,
    owned.counted, owned.ended, records, owned.destruct.bare rfl rfl rfl⟩
  obtain ⟨watchesIn, watchesOut⟩ := owned.watches connection found
  exact ⟨owned.lock_cases watchesIn, owned.lock_cases watchesOut⟩

theorem server_owns_queues_rerun :
    ∃ final log, Machine.run step (start .Default) [.run none, .run (some .outPackets), .run none] =
        some (final, log) ∧
      final.heap.fresh = 5 ∧ final.heap.destroyed = [0, 2, 1] ∧ Bare (destruct final) := by
  obtain ⟨final, log, ran, facts⟩ : ∃ final log,
      Machine.run step (start .Default) [.run none, .run (some .outPackets), .run none] = some (final, log) ∧
      final.heap.fresh = 5 ∧ final.heap.destroyed = [0, 2, 1] := ⟨_, _, rfl, rfl, rfl⟩
  exact ⟨final, log, ran, facts.1, facts.2, (server_owns_queues .Default _ final log ran).2.2.2.2.2⟩

end Server

end Pirks
