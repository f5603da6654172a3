import Mathlib.Data.List.Nodup
import Mathlib.Data.List.TakeWhile
import LibToxTun.Foundation.Run
import LibToxTun.Tun.Windows

/-! # Writing to the TAP device on Windows

The `OVERLAPPED` of a write lies in an element of the list `overlappedWrite`. The system
leaves the result of a write that it has queued there, at a later moment and in whichever
order, so the element has to be kept until then. It is kept: `sendData` takes elements
from the back of the list only as long as their writes have completed.
-/

namespace LibToxTun

open Foundation Foundation.Action

/-- What `WriteFile` answers. -/
inductive WriteStatus where
  | finished
  | ioPending
  | failed
deriving DecidableEq, Repr

/-- An element of the list, at its address. -/
structure WriteNode where
  address : Nat
  overlapped : Overlapped
deriving DecidableEq, Repr

/-- The list `overlappedWrite`, from the back to the front, and the addresses under which
the system will leave the results of the writes that it has queued. -/
structure Writing where
  overlappedWrite : List WriteNode
  queued : List Nat
deriving DecidableEq, Repr

namespace WriteNode

def completed (n : WriteNode) : Bool := TunWin.hasOverlappedIoCompleted n.overlapped

/-- The system writes to the `OVERLAPPED` at an address. -/
def leave (address : Nat) (result : Overlapped) (n : WriteNode) : WriteNode :=
  if n.address = address then { n with overlapped := result } else n

@[simp] theorem leave_address (address : Nat) (result : Overlapped) (n : WriteNode) :
    (n.leave address result).address = n.address := by
  unfold leave
  split <;> rfl

theorem completed_iff {n : WriteNode} : n.completed = true ↔ n.overlapped ≠ .pending := bne_iff_ne

end WriteNode

namespace Writing

def start : Writing := ⟨[], []⟩

def addresses (w : Writing) : List Nat := w.overlappedWrite.map WriteNode.address

def leave (w : Writing) (address : Nat) (result : Overlapped) : Writing :=
  { w with overlappedWrite := w.overlappedWrite.map (WriteNode.leave address result) }

/-- `emplace_front`, and `memset` on the new element. -/
def emplaceFront (address : Nat) : Code Writing Unit :=
  modify fun w => { w with overlappedWrite := w.overlappedWrite ++ [⟨address, .completed 0⟩] }

def writeFile (status : WriteStatus) (address : Nat) : Code Writing Unit :=
  modify fun w =>
    match status with
    | .ioPending => { w.leave address .pending with queued := w.queued ++ [address] }
    | _ => w

def popFront : Code Writing Unit :=
  modify fun w => { w with overlappedWrite := w.overlappedWrite.dropLast }

/-- The loop of `pop_back`. -/
def popCompleted : Code Writing Unit :=
  modify fun w => { w with overlappedWrite := w.overlappedWrite.dropWhile WriteNode.completed }

/-- `sendData`, with the address of the new element. -/
def sendData (status : WriteStatus) (address : Nat) : Code Writing Unit := do
  emplaceFront address
  writeFile status address
  match status with
  | .finished =>
      popFront
      popCompleted
  | .ioPending => popCompleted
  | .failed => throw (.toxTunError "Writing to tun failed")

def complete (w : Writing) (address : Nat) (result : Overlapped) : Writing :=
  { w.leave address result with queued := w.queued.erase address }

end Writing

/-- A packet is written, or the system is done with a write. -/
inductive WriteCall where
  | sendData (status : WriteStatus) (address : Nat)
  | complete (address : Nat) (result : Overlapped)
deriving DecidableEq, Repr

namespace Writing

/-- New elements lie where none is; results come for what was queued. -/
def next (w : Writing) : WriteCall → Option Writing
  | .sendData status address =>
      if address ∈ w.addresses then none else some (sendData status address w).state
  | .complete address result =>
      if address ∈ w.queued ∧ result ≠ .pending then some (w.complete address result) else none

/-- The writes that are queued are those of the elements that are pending, one for each. -/
structure Retained (w : Writing) : Prop where
  apart : w.addresses.Nodup
  once : w.queued.Nodup
  pending : ∀ address, address ∈ w.queued ↔ ⟨address, .pending⟩ ∈ w.overlappedWrite

theorem retained_start : Retained start := ⟨List.nodup_nil, List.nodup_nil, fun _ => by simp [start]⟩

theorem mem_leave {w : Writing} {a address : Nat} {o result : Overlapped} (other : a ≠ address) :
    ⟨a, o⟩ ∈ (w.leave address result).overlappedWrite ↔ ⟨a, o⟩ ∈ w.overlappedWrite := by
  simp only [leave, List.mem_map]
  constructor
  · rintro ⟨n, hn, same⟩
    have away : n.address ≠ address := by
      rw [← WriteNode.leave_address address result n, same]
      exact other
    rw [WriteNode.leave, if_neg away] at same
    exact same ▸ hn
  · exact fun h => ⟨_, h, if_neg other⟩

theorem mem_leave_self {w : Writing} {address : Nat} {o result : Overlapped} :
    ⟨address, o⟩ ∈ (w.leave address result).overlappedWrite ↔ address ∈ w.addresses ∧ o = result := by
  simp only [leave, addresses, List.mem_map]
  constructor
  · rintro ⟨n, hn, same⟩
    have here : n.address = address := by rw [← WriteNode.leave_address address result n, same]
    rw [WriteNode.leave, if_pos here, WriteNode.mk.injEq] at same
    exact ⟨⟨n, hn, here⟩, same.2.symm⟩
  · rintro ⟨⟨n, hn, rfl⟩, rfl⟩
    exact ⟨n, hn, if_pos rfl⟩

variable {w : Writing}

theorem Retained.complete (retained : w.Retained) {address : Nat} {result : Overlapped}
    (queued : address ∈ w.queued) (done : result ≠ .pending) : (w.complete address result).Retained := by
  refine ⟨by simpa [Writing.complete, addresses, leave, Function.comp_def] using retained.apart,
    retained.once.erase address, fun a => ?_⟩
  change a ∈ w.queued.erase address ↔ ⟨a, .pending⟩ ∈ (w.leave address result).overlappedWrite
  rw [retained.once.mem_erase_iff]
  by_cases own : a = address
  · subst own
    simp [mem_leave_self, done.symm]
  · rw [mem_leave own, retained.pending]
    simp [own]

/-- Elements whose writes have completed may go. -/
theorem Retained.sublist (retained : w.Retained) {rest : List WriteNode}
    (part : rest.Sublist w.overlappedWrite)
    (keeps : ∀ n ∈ w.overlappedWrite, n.overlapped = .pending → n ∈ rest) :
    Retained { w with overlappedWrite := rest } where
  apart := (part.map _).nodup retained.apart
  once := retained.once
  pending address := (retained.pending address).trans ⟨fun h => keeps _ h rfl, fun h => part.subset h⟩

theorem Retained.emplace (retained : w.Retained) {address : Nat} (free : address ∉ w.addresses) :
    Retained { w with overlappedWrite := w.overlappedWrite ++ [⟨address, .completed 0⟩] } where
  apart := by
    rw [addresses, List.map_append, List.nodup_append]
    refine ⟨retained.apart, List.nodup_singleton _, fun a ha b hb same => free ?_⟩
    rw [List.map_singleton, List.mem_singleton] at hb
    have here : a = address := same.trans hb
    exact here ▸ ha
  once := retained.once
  pending a := (retained.pending a).trans (by simp)

/-- The new element becomes the one of a write that is queued. -/
theorem Retained.queue (retained : w.Retained) {address : Nat} (here : address ∈ w.addresses)
    (settled : address ∉ w.queued) :
    Retained { w.leave address .pending with queued := w.queued ++ [address] } where
  apart := by simpa [addresses, leave, Function.comp_def] using retained.apart
  once := by
    rw [List.nodup_append]
    refine ⟨retained.once, List.nodup_singleton _, fun a ha b hb same => settled ?_⟩
    rw [List.mem_singleton] at hb
    exact (same.trans hb) ▸ ha
  pending a := by
    change a ∈ w.queued ++ [address] ↔ ⟨a, .pending⟩ ∈ (w.leave address .pending).overlappedWrite
    rw [List.mem_append, List.mem_singleton]
    by_cases own : a = address
    · subst own
      simp [mem_leave_self, here]
    · rw [mem_leave own, ← retained.pending]
      simp [own]

theorem Retained.unqueued (retained : w.Retained) {address : Nat} (free : address ∉ w.addresses) :
    address ∉ w.queued :=
  fun queued => free (List.mem_map_of_mem ((retained.pending address).mp queued))

theorem Retained.popCompleted (retained : w.Retained) :
    Retained { w with overlappedWrite := w.overlappedWrite.dropWhile WriteNode.completed } := by
  refine retained.sublist (List.dropWhile_sublist _) fun n hn pending => ?_
  rw [← List.takeWhile_append_dropWhile (p := WriteNode.completed) (l := w.overlappedWrite),
    List.mem_append] at hn
  rcases hn with gone | kept
  · exact (WriteNode.completed_iff.mp (List.mem_takeWhile_imp gone) pending).elim
  · exact kept

/-- What a call leaves: the elements up to the first one whose write has not completed are
gone, unless the system refused the write. -/
theorem sendData_cases (retained : w.Retained) {address : Nat} (free : address ∉ w.addresses)
    (status : WriteStatus) : ∃ w' : Writing, w'.Retained ∧
      ((∃ what, status = .failed ∧ sendData status address w = .thrown (.toxTunError what) w') ∨
      sendData status address w = .returned () w' ∧
        ∀ n ∈ w'.overlappedWrite.head?, n.overlapped = .pending) := by
  have emplaced := retained.emplace free
  have swept (l : List WriteNode) :
      ∀ n ∈ (l.dropWhile WriteNode.completed).head?, n.overlapped = .pending := by
    intro n hn
    have kept := List.head?_dropWhile_not WriteNode.completed l
    rw [Option.mem_def.mp hn] at kept
    by_contra done
    exact Bool.false_ne_true (kept.symm.trans (WriteNode.completed_iff.mpr done))
  cases status with
  | failed => exact ⟨_, emplaced, .inl ⟨_, rfl, rfl⟩⟩
  | finished =>
      refine ⟨_, retained.popCompleted, .inr ⟨?_, swept _⟩⟩
      simp [sendData, emplaceFront, writeFile, popFront, Writing.popCompleted]
  | ioPending =>
      have here : address ∈ addresses { w with
          overlappedWrite := w.overlappedWrite ++ [⟨address, .completed 0⟩] } := by
        simp [addresses]
      exact ⟨_, (emplaced.queue here (retained.unqueued free)).popCompleted, .inr ⟨rfl, swept _⟩⟩

theorem next_retained {w' : Writing} (retained : w.Retained) {call : WriteCall}
    (taken : w.next call = some w') : w'.Retained := by
  cases call with
  | sendData status address =>
      simp only [next, Option.ite_none_left_eq_some] at taken
      obtain ⟨free, done⟩ := taken
      obtain ⟨w₁, retained₁, ⟨what, -, thrown⟩ | ⟨returned, -⟩⟩ := sendData_cases retained free status
      · rw [thrown] at done
        cases done
        exact retained₁
      · rw [returned] at done
        cases done
        exact retained₁
  | complete address result =>
      simp only [next, Option.ite_none_right_eq_some] at taken
      obtain ⟨⟨queued, done⟩, same⟩ := taken
      cases same
      exact retained.complete queued done

/-- Whatever the system answers and in whichever order it completes its writes, it leaves every
result in an element that is still in the list and has waited for it. A call that does not
throw leaves no element behind the oldest write that has not completed, and none at all when
there is no such write. -/
theorem writes_retained (reached : Reach next (fun _ _ => True) start w) :
    (∀ address ∈ w.queued, ⟨address, .pending⟩ ∈ w.overlappedWrite) ∧ w.addresses.Nodup ∧
      ∀ status, ∀ address ∉ w.addresses, ∀ w', sendData status address w = .returned () w' →
        (∀ n ∈ w'.overlappedWrite.head?, n.address ∈ w'.queued) ∧
          (w'.overlappedWrite = [] ↔ w'.queued = []) := by
  have retained : w.Retained :=
    reached.invariant retained_start fun _ _ _ retained _ taken => next_retained retained taken
  refine ⟨fun address => (retained.pending address).mp, retained.apart, ?_⟩
  intro status address free w' done
  obtain ⟨w₁, retained₁, ⟨what, -, thrown⟩ | ⟨returned, oldest⟩⟩ := sendData_cases retained free status
  · cases thrown.symm.trans done
  · cases returned.symm.trans done
    have waited : ∀ n ∈ w'.overlappedWrite.head?, n.address ∈ w'.queued := by
      intro n hn
      have pending : n = ⟨n.address, .pending⟩ := by rw [← oldest n hn]
      exact (retained₁.pending _).mpr (pending ▸ List.mem_of_mem_head? hn)
    refine ⟨waited, fun empty => ?_, fun none => ?_⟩
    · exact List.eq_nil_iff_forall_not_mem.mpr fun a ha => by
        simpa [empty] using (retained₁.pending a).mp ha
    · cases nodes : w'.overlappedWrite with
      | nil => rfl
      | cons n rest =>
          have queued := waited n (by rw [nodes]; rfl)
          rw [none] at queued
          cases queued

/-- The younger of two writes is done first, and the element of the older one keeps both. -/
theorem writes_retained_outOfOrder : ∃ w : Writing,
    w = ⟨[⟨10, .pending⟩, ⟨11, .completed 60⟩], [10]⟩ ∧
    ∀ status, ∀ address ∉ w.addresses, ∀ w', sendData status address w = .returned () w' →
      (∀ n ∈ w'.overlappedWrite.head?, n.address ∈ w'.queued) ∧
        (w'.overlappedWrite = [] ↔ w'.queued = []) := by
  obtain ⟨w, taken, here⟩ := exists_run next start
    [.sendData .ioPending 10, .sendData .ioPending 11, .complete 11 (.completed 60)]
    (P := fun w => w = ⟨[⟨10, .pending⟩, ⟨11, .completed 60⟩], [10]⟩) (by decide)
  have reached : Reach next (fun _ _ => True) start w := Reach.of_run taken fun _ _ => trivial
  exact ⟨w, here, (writes_retained reached).2.2⟩

end Writing

end LibToxTun
