import Mathlib.Data.List.Basic

/-! One direction of a stream: the rest of what is being written, what is on its way, and what has
arrived and is still to be read. The parts move on in pieces of any size, and keep their order. -/
namespace RestRpc.Pipes

variable {Octet : Type}

structure Pipe (Octet : Type) where
  writing : List Octet := []
  flight : List Octet := []
  arrived : List Octet := []
  deriving DecidableEq,Repr

namespace Pipe

def start (pipe : Pipe Octet) (frame : List Octet) : Pipe Octet :=
  {pipe with writing := pipe.writing ++ frame}

def send (pipe : Pipe Octet) (n : Nat) : Pipe Octet :=
  {pipe with
    writing := pipe.writing.drop n
    flight := pipe.flight ++ pipe.writing.take n}

def deliver (pipe : Pipe Octet) (n : Nat) : Pipe Octet :=
  {pipe with
    flight := pipe.flight.drop n
    arrived := pipe.arrived ++ pipe.flight.take n}

def read (pipe : Pipe Octet) (n : Nat) : Pipe Octet := {pipe with arrived := pipe.arrived.drop n}

/-- Everything written that is still to be read, in order. -/
def content (pipe : Pipe Octet) : List Octet := pipe.arrived ++ pipe.flight ++ pipe.writing

/-- The moves that the octets of a pipe have before them. -/
def weight (pipe : Pipe Octet) : Nat :=
  3*pipe.writing.length + 2*pipe.flight.length + pipe.arrived.length

@[simp] theorem content_start (pipe : Pipe Octet) (frame : List Octet) :
    (pipe.start frame).content = pipe.content ++ frame := by simp [start,content]

@[simp] theorem content_send (pipe : Pipe Octet) (n : Nat) : (pipe.send n).content = pipe.content := by
  simp [send,content]

@[simp] theorem content_deliver (pipe : Pipe Octet) (n : Nat) :
    (pipe.deliver n).content = pipe.content := by
  have pieces := List.take_append_drop n pipe.flight
  simp only [deliver,content,List.append_assoc]
  rw [← List.append_assoc (pipe.flight.take n),pieces]

theorem content_read (pipe : Pipe Octet) (n : Nat) (enough : n ≤ pipe.arrived.length) :
    (pipe.read n).content = pipe.content.drop n := by
  simp [read,content,List.drop_append_of_le_length enough]

theorem take_content (pipe : Pipe Octet) (n : Nat) (enough : n ≤ pipe.arrived.length) :
    pipe.content.take n = pipe.arrived.take n := by
  simp [content,List.take_append_of_le_length enough]

theorem weight_send (pipe : Pipe Octet) (n : Nat) (more : 0 < n) (fits : n ≤ pipe.writing.length) :
    (pipe.send n).weight < pipe.weight := by
  simp only [weight,send,List.length_append,List.length_drop,List.length_take]
  omega

theorem weight_deliver (pipe : Pipe Octet) (n : Nat) (more : 0 < n) (fits : n ≤ pipe.flight.length) :
    (pipe.deliver n).weight < pipe.weight := by
  simp only [weight,deliver,List.length_append,List.length_drop,List.length_take]
  omega

theorem weight_read (pipe : Pipe Octet) (n : Nat) (enough : n ≤ pipe.arrived.length) :
    (pipe.read n).weight + n = pipe.weight := by
  simp only [weight,read,List.length_drop]
  omega

/-- When nothing can be sent or delivered, all content has arrived. -/
theorem arrived_of_settled (pipe : Pipe Octet) (sent : pipe.writing = []) (landed : pipe.flight = []) :
    pipe.arrived = pipe.content := by simp [content,sent,landed]

end Pipe

end RestRpc.Pipes
