import LibToxTun.Foundation.Ownership
import LibToxTun.CApi.Isolation

/-! # The strings of the C interface

`toxtun_get_last_error` returns a pointer into memory of the wrapper. Every call allocates
a string, puts it in the entry of the handle in `errorCStrings`, and frees the one that was
there; nothing else touches the entries, not even the end of the object.
-/

namespace LibToxTun

open Foundation

/-- The process, the strings that are allocated under an address, and the entries of
`errorCStrings`. -/
structure Strings where
  process : Process
  memory : Pointer → Option String
  errorCStrings : Pointer → Option Pointer

def ToxtunCall.asks : ToxtunCall → Bool
  | .getLastError => true
  | _ => false

theorem ToxtunCall.eq_of_asks {call : ToxtunCall} (asks : call.asks = true) : call = .getLastError := by
  cases call <;> first | rfl | cases asks

namespace Strings

/-- Before the first call; the memory may hold strings of others. -/
def start (base : Pointer → Option String) : Strings := ⟨.initial, base, fun _ => none⟩

/-- `reset` of the entry of a handle, or `emplace` of a new one. -/
def store (s : Strings) (toxtun cString : Pointer) (text : String) : Strings :=
  let memory := Function.update s.memory cString (some text)
  { s with
    memory :=
      match s.errorCStrings toxtun with
      | some old => Function.update memory old none
      | none => memory
    errorCStrings := Function.update s.errorCStrings toxtun (some cString) }

/-- A call, and the address that it gets if it allocates a string. -/
def next (s : Strings) (input : Pointer × Pointer × ToxtunCall) : Option Strings :=
  let (cString, toxtun, call) := input
  (s.process.next (toxtun, call)).bind fun p =>
    if call.asks then
      if s.memory cString = none then
        some ({ s with process := p }.store toxtun cString (s.process.errorText toxtun))
      else none
    else some { s with process := p }

/-! ## One call -/

variable {s s' : Strings} {cString toxtun : Pointer} {call : ToxtunCall}

theorem next_unasked (unasked : call.asks = false) (taken : next s (cString, toxtun, call) = some s') :
    s'.memory = s.memory ∧ s'.errorCStrings = s.errorCStrings := by
  simp only [next, unasked, Option.bind_eq_some_iff] at taken
  obtain ⟨p, -, same⟩ := taken
  cases same
  exact ⟨rfl, rfl⟩

theorem next_asked (taken : next s (cString, toxtun, .getLastError) = some s') :
    s.memory cString = none ∧
      s'.process.observedBy toxtun =
        s.process.observedBy toxtun ++ [.lastError (s.process.errorText toxtun)] ∧
      s'.memory = (s.store toxtun cString (s.process.errorText toxtun)).memory ∧
      s'.errorCStrings = Function.update s.errorCStrings toxtun (some cString) := by
  simp only [next, ToxtunCall.asks, if_true, Option.bind_eq_some_iff,
    Option.ite_none_right_eq_some] at taken
  obtain ⟨p, called, free, same⟩ := taken
  cases same
  refine ⟨free, ?_, rfl, rfl⟩
  rcases (Process.next_cases called).2 with ⟨new, -⟩ | ⟨-, t, -, rfl⟩
  · cases new
  · exact Process.getLastError_observedBy s.process toxtun

theorem store_first (entry : s.errorCStrings toxtun = none) (text : String) :
    (s.store toxtun cString text).memory = Function.update s.memory cString (some text) := by
  simp only [store, entry]

theorem store_again {old : Pointer} (entry : s.errorCStrings toxtun = some old) (text : String) :
    (s.store toxtun cString text).memory =
      Function.update (Function.update s.memory cString (some text)) old none := by
  simp only [store, entry]

variable {base : Pointer → Option String}

theorem owned_store (owned : Owned base s.errorCStrings s.memory) (free : s.memory cString = none)
    (text : String) :
    Owned base (Function.update s.errorCStrings toxtun (some cString))
      (s.store toxtun cString text).memory := by
  cases entry : s.errorCStrings toxtun with
  | some old =>
      rw [store_again entry]
      exact owned.exchange entry free text
  | none =>
      rw [store_first entry]
      exact owned.acquire entry free text

theorem next_owned (owned : Owned base s.errorCStrings s.memory)
    {input : Pointer × Pointer × ToxtunCall} (taken : next s input = some s') :
    Owned base s'.errorCStrings s'.memory := by
  obtain ⟨cString, toxtun, call⟩ := input
  cases asks : call.asks with
  | false =>
      obtain ⟨memory, entries⟩ := next_unasked asks taken
      rwa [memory, entries]
  | true =>
      cases ToxtunCall.eq_of_asks asks
      obtain ⟨free, -, memory, entries⟩ := next_asked taken
      rw [memory, entries]
      exact owned_store owned free _

/-- A string that an entry holds stays until the handle is asked again. -/
theorem next_keeps (owned : Owned base s.errorCStrings s.memory) {kept : Pointer} {text : String}
    (entry : s.errorCStrings toxtun = some kept) (here : s.memory kept = some text)
    {input : Pointer × Pointer × ToxtunCall} (taken : next s input = some s')
    (unasked : input.2.1 = toxtun → input.2.2.asks = false) :
    s'.errorCStrings toxtun = some kept ∧ s'.memory kept = some text := by
  obtain ⟨cString, other, call⟩ := input
  cases asks : call.asks with
  | false =>
      obtain ⟨memory, entries⟩ := next_unasked asks taken
      rw [memory, entries]
      exact ⟨entry, here⟩
  | true =>
      cases ToxtunCall.eq_of_asks asks
      have apart : toxtun ≠ other := fun same => Bool.false_ne_true ((unasked same.symm).symm.trans asks)
      obtain ⟨free, -, memory, entries⟩ := next_asked taken
      have fresh : kept ≠ cString := by
        rintro rfl
        rw [here] at free
        cases free
      rw [memory, entries, Function.update_of_ne apart]
      refine ⟨entry, ?_⟩
      cases old : s.errorCStrings other with
      | none => rwa [store_first old, Function.update_of_ne fresh]
      | some a =>
          have away : kept ≠ a := by
            rintro rfl
            exact apart (owned.apart _ _ _ entry old)
          rwa [store_again old, Function.update_of_ne away, Function.update_of_ne fresh]

/-! ## Runs -/

theorem run_owned {inputs : List (Pointer × Pointer × ToxtunCall)}
    (ran : run next (start base) inputs = some s) : Owned base s.errorCStrings s.memory := by
  have reached : Reach next (fun _ _ => True) (start base) s := Reach.of_run ran fun _ _ => trivial
  exact reached.invariant (Owned.start base) fun _ _ _ owned _ taken => next_owned owned taken

/-- The string that a call returned can be read until the next call on the handle, whatever
else happens, and is freed by that one. No string leaks beyond one for each handle. -/
theorem lastError_lives {before later : List (Pointer × Pointer × ToxtunCall)} {s'' : Strings}
    (ran : run next (start base) before = some s)
    (asked : next s (cString, toxtun, .getLastError) = some s') (went : run next s' later = some s'')
    (unasked : ∀ input ∈ later, input.2.1 = toxtun → input.2.2.asks = false) :
    (∃ text, s'.process.observedBy toxtun = s.process.observedBy toxtun ++ [.lastError text] ∧
      s''.memory cString = some text) ∧
    (∀ fresh t, next s'' (fresh, toxtun, .getLastError) = some t → t.memory cString = none) ∧
    Owned base s''.errorCStrings s''.memory := by
  have owned := next_owned (run_owned ran) asked
  obtain ⟨free, shown, memory, entries⟩ := next_asked asked
  have given : s'.errorCStrings toxtun = some cString := by rw [entries, Function.update_self]
  have here : s'.memory cString = some (s.process.errorText toxtun) := by
    rw [memory]
    cases old : s.errorCStrings toxtun with
    | none => rw [store_first old, Function.update_self]
    | some a =>
        have away : cString ≠ a := by
          rintro rfl
          exact (run_owned ran).isOpen _ _ old free
        rw [store_again old, Function.update_of_ne away, Function.update_self]
  have kept : (s''.errorCStrings toxtun = some cString ∧
      s''.memory cString = some (s.process.errorText toxtun)) ∧
      Owned base s''.errorCStrings s''.memory := by
    have reached := Reach.of_run (P := fun input => input.2.1 = toxtun → input.2.2.asks = false) went unasked
    exact reached.invariant (I := fun s => (s.errorCStrings toxtun = some cString ∧
        s.memory cString = some _) ∧ Owned base s.errorCStrings s.memory) ⟨⟨given, here⟩, owned⟩
      fun _ _ _ ⟨⟨entry, text⟩, owned⟩ other taken =>
        ⟨next_keeps owned entry text taken other, next_owned owned taken⟩
  obtain ⟨⟨entry, text⟩, owned⟩ := kept
  refine ⟨⟨_, shown, text⟩, fun fresh t again => ?_, owned⟩
  obtain ⟨-, -, memory', -⟩ := next_asked again
  rw [memory', store_again entry, Function.update_self]

/-- The error of object 1 is read, then that of object 2. The first string can be read when
object 1 has been deleted, and is freed when its error is read once more. -/
theorem lastError_lives_deleted : ∃ s'' : Strings,
    s''.memory 51 = some "No error" ∧
    (∃ t, next s'' (0, 1, .kill Process.granting []) = some t ∧
      t.memory 50 = some "No connection to accept from this friend") ∧
    ∃ t, next s'' (52, 1, .getLastError) = some t ∧ t.memory 50 = none := by
  let E := Process.granting
  obtain ⟨s, ran, later⟩ := exists_run next (start fun _ => none)
    [(0, 1, .new), (0, 2, .new), (0, 1, .acceptConnection E 7)]
    (P := fun s => (run next s [(50, 1, .getLastError), (51, 2, .getLastError)]).any fun s'' =>
      decide (s''.memory 51 = some "No error" ∧ (next s'' (52, 1, .getLastError)).isSome ∧
        (next s'' (0, 1, .kill E [])).any fun t =>
          decide (t.memory 50 = some "No connection to accept from this friend"))) (by decide +kernel)
  obtain ⟨s'', both, other, asks, kills⟩ := exists_run next s _ later
  obtain ⟨t, again⟩ := Option.isSome_iff_exists.mp asks
  obtain ⟨d, deleted, string⟩ := (Option.any_eq_true ..).mp kills
  rw [← List.singleton_append, run_append, Option.bind_eq_some_iff] at both
  obtain ⟨s', asked, went⟩ := both
  rw [run_singleton] at asked
  exact ⟨s'', other, ⟨d, deleted, of_decide_eq_true string⟩, t, again,
    (lastError_lives ran asked went (by simp)).2.1 52 t again⟩

end Strings

end LibToxTun
