import BacnetZephyr.Foundation.Transition
import Mathlib.Logic.Function.Basic

/-!
# Networks that carry datagrams

Nodes of one kind hand datagrams to a network and take them from it. The network may lose
datagrams, deliver them more than once and in any order: a datagram that has been handed
over stays in flight, and a node may take any datagram in flight. It does not make
datagrams up, so what a node takes has been sent by a node before.
-/

namespace Datagrams

open Transition

structure Datagram (Endpoint : Type) where
  source : Endpoint
  destination : Endpoint
  payload : List UInt8

/--
A kind of node: what a call does to the node, which datagrams it may hand to the network,
and what it may have taken from it.
-/
structure Host (Endpoint : Type) where
  State : Type
  Call : Type
  moves : State → Call → State → Prop
  emits : State → Call → Datagram Endpoint → Prop
  takes : State → Call → Option (Datagram Endpoint) → Prop

variable {Endpoint : Type} {Node : Type}

structure Network (host : Host Endpoint) (Node : Type) where
  nodes : Node → host.State
  inFlight : List (Datagram Endpoint)

variable {host : Host Endpoint}

def Network.initial (nodes : Node → host.State) : Network host Node where
  nodes := nodes
  inFlight := []

/-- A call of one node. -/
inductive Step [DecidableEq Node] :
    Network host Node → Node × host.Call → Network host Node → Prop where
  | call {network : Network host Node} {node : Node} {call : host.Call} {after : host.State}
      {received : Option (Datagram Endpoint)} {emitted : List (Datagram Endpoint)}
      (moves : host.moves (network.nodes node) call after)
      (takes : host.takes (network.nodes node) call received)
      (arrived : ∀ datagram ∈ received, datagram ∈ network.inFlight)
      (emits : ∀ datagram ∈ emitted, host.emits (network.nodes node) call datagram) :
      Step network (node, call)
        { nodes := Function.update network.nodes node after
          inFlight := network.inFlight ++ emitted }

variable [DecidableEq Node] {nodes : Node → host.State} {last : Network host Node}
  {taken : List (Taken (Network host Node) (Node × host.Call))}

/-- A transition may have handed the datagram to the network. -/
def Sends (datagram : Datagram Endpoint)
    (transition : Taken (Network host Node) (Node × host.Call)) : Prop :=
  host.emits (transition.before.nodes transition.label.1) transition.label.2 datagram

/-- Nothing is in flight that no node has sent. -/
theorem sent_of_mem_inFlight (run : Run Step (Network.initial nodes) taken last)
    {datagram : Datagram Endpoint} (mem : datagram ∈ last.inFlight) :
    ∃ transition ∈ taken, Sends datagram transition := by
  induction run with
  | start => cases mem
  | @next earlier middle _ label run move ih =>
      cases move with
      | call moves takes arrived emits =>
          rcases List.mem_append.mp mem with old | new
          · rcases ih old with ⟨transition, before, sends⟩
            exact ⟨transition, List.mem_append_left _ before, sends⟩
          · refine ⟨_, List.mem_append_right _ (List.mem_singleton_self _), ?_⟩
            exact emits datagram new

/-- What a node takes has been sent by a node before. -/
theorem received_was_sent {early late : List (Taken (Network host Node) (Node × host.Call))}
    {transition : Taken (Network host Node) (Node × host.Call)}
    (run : Run Step (Network.initial nodes) (early ++ transition :: late) last) :
    ∃ received, host.takes (transition.before.nodes transition.label.1) transition.label.2
        received ∧
      ∀ datagram ∈ received, ∃ sending ∈ early, Sends datagram sending := by
  rcases run.split with ⟨before, move, _⟩
  generalize transition.after = after at move
  generalize transition.label = label at move ⊢
  cases move with
  | @call node call _ received _ moves takes arrived emits =>
      refine ⟨received, takes, ?_⟩
      intro datagram mem
      exact sent_of_mem_inFlight before (arrived datagram mem)

/--
An invariant of the calls of one node holds of every node, as long as all calls meet a
condition.
-/
theorem forall_nodes_of_forall {Invariant : host.State → Prop}
    {meets : host.State → host.Call → Prop} (initial : ∀ node, Invariant (nodes node))
    (kept : ∀ before call after, Invariant before → host.moves before call after →
      meets before call → Invariant after)
    (run : Run Step (Network.initial nodes) taken last)
    (all : ∀ transition ∈ taken,
      meets (transition.before.nodes transition.label.1) transition.label.2) (node : Node) :
    Invariant (last.nodes node) := by
  have everywhere : ∀ node, Invariant (last.nodes node) := by
    apply @Run.invariant_of_forall _ _ _ _ _ _
      (fun network => ∀ node, Invariant (network.nodes node))
      (fun transition => meets (transition.before.nodes transition.label.1) transition.label.2)
      initial _ run all
    rintro before label after invariant move met other
    cases move with
    | @call mover call _ _ _ moves takes arrived emits =>
        by_cases same : other = mover
        · subst same
          simp only [Function.update_self]
          exact kept _ _ _ (invariant other) moves met
        · simp only [Function.update_of_ne same]
          exact invariant other
  exact everywhere node

theorem forall_nodes {Invariant : host.State → Prop} (initial : ∀ node, Invariant (nodes node))
    (kept : ∀ before call after, Invariant before → host.moves before call after →
      Invariant after)
    (run : Run Step (Network.initial nodes) taken last) (node : Node) :
    Invariant (last.nodes node) := by
  have always : ∀ before call after, Invariant before → host.moves before call after →
      True → Invariant after :=
    fun before call after invariant moves _ => kept before call after invariant moves
  exact forall_nodes_of_forall initial always run (fun _ _ => trivial) node

end Datagrams
