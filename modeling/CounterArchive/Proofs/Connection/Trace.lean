import CounterArchive.Connection
import Mathlib.Data.List.TakeWhile

/-! The stack trace of an opening begins at the first caller from outside the package, and is the same
however the connection made itself known and however often it is looked at. -/
namespace CounterArchive.Connection

def Frame.Inside (f : Frame) : Prop :=
  f.moduleName = "countervault" ∨ ∃ part, f.moduleName = "countervault." ++ part

theorem Frame.isOwn_iff (f : Frame) : f.isOwn = true ↔ f.Inside := by
  have package : Settings.defaultName = "countervault" := rfl
  have front : ("countervault" ++ ".").toList = "countervault.".toList := rfl
  rw [isOwn, Bool.or_eq_true, decide_eq_true_iff, package, List.isPrefixOf_iff_prefix, front]
  refine or_congr_right ⟨?_, ?_⟩
  · rintro ⟨rest, split⟩
    refine ⟨String.ofList rest, String.toList_inj.mp ?_⟩
    simp [← split]
  · rintro ⟨part, same⟩
    exact ⟨part.toList, by rw [same, String.toList_append]⟩

example : Frame.isOwn ⟨"countervaultx", "", 0, ""⟩ = false := by decide

def BeginsOutside (stack : List Frame) : Prop := ∀ f ∈ stack.head?, ¬ f.Inside

/-- The longest end of a stack that is empty or begins outside the package. -/
structure IsTrace (stack trace : List Frame) : Prop where
  suffix : trace <:+ stack
  outside : BeginsOutside trace
  longest : ∀ other, other <:+ stack → BeginsOutside other → other <:+ trace

theorem IsTrace.unique {stack trace other : List Frame} (one : IsTrace stack trace)
    (two : IsTrace stack other) : trace = other := by
  have first := one.longest other two.suffix two.outside
  have second := two.longest trace one.suffix one.outside
  exact second.eq_of_length (Nat.le_antisymm second.length_le first.length_le)

/-- Leaving out the package's own frames at the beginning gives the longest such end. -/
theorem isTrace_dropWhile (stack : List Frame) : IsTrace stack (stack.dropWhile Frame.isOwn) := by
  induction stack with
  | nil => exact ⟨List.suffix_rfl, nofun, fun _ suffix _ => suffix⟩
  | cons f rest ih =>
    by_cases own : f.isOwn = true
    · rw [List.dropWhile_cons_of_pos own]
      refine ⟨ih.suffix.trans (List.suffix_cons f rest), ih.outside, fun other suffix outside => ?_⟩
      -- The whole stack begins inside, so another end lies in the rest.
      rcases List.suffix_cons_iff.mp suffix with rfl | later
      · exact absurd (f.isOwn_iff.mp own) (outside f rfl)
      · exact ih.longest other later outside
    · rw [List.dropWhile_cons_of_neg own]
      refine ⟨List.suffix_rfl, ?_, fun _ suffix _ => suffix⟩
      rintro _ ⟨⟩
      exact mt f.isOwn_iff.mpr own

namespace Opening

def shown (disabled : Bool) (callers : List Frame) : List Frame :=
  if disabled then [] else callers.dropWhile Frame.isOwn

/-- The package's own frames above the callers make no difference. -/
theorem record_eq {seconds : Binary64} {product : Rat} (finite : seconds.scale 1000 = .finite product)
    (entry : Entry) (disabled : Bool) (thread : Int) (callers : List Frame) :
    ∃ o, record entry disabled seconds thread callers = .ok o ∧ o.stackTrace = shown disabled callers := by
  refine ⟨⟨Binary64.truncateRat product, thread, if disabled then [] else entry.frames ++ callers⟩, ?_, ?_⟩
  · rw [record, finite]
    rfl
  · cases disabled <;> cases entry <;> rfl

inductive Glance where
  | trace
  | report

def glance (o : Opening) : Glance → Except DateTime.RangeFault Json
  | .trace => .ok (.array (o.stackTrace.map Frame.toJson))
  | .report => o.report.map fun report => (report.field? "opening_stack_trace").getD .null

/-- All that is shown is the stack trace, unless there is no date to report. -/
theorem glance_cases (o : Opening) (look : Glance) :
    o.glance look = .ok (.array (o.stackTrace.map Frame.toJson)) ∨
      ∃ fault, o.date = .error fault ∧ o.glance look = .error fault := by
  cases look with
  | trace => exact .inl rfl
  | report =>
    rw [glance, report]
    cases o.date with
    | error fault => exact .inr ⟨fault, rfl, rfl⟩
    | ok date => exact .inl rfl

/-- An opening at a finite time has a stack trace, which is the same if the connection is captured and if
it is made at once, and each time that one looks. Nothing is in it where stack traces are disabled.
Else it is the longest end of the callers that is empty or begins outside the package: only frames of
the package are left out, at the beginning, and if there are no others nothing is left. -/
theorem record_trace {seconds : Binary64} {product : Rat} (finite : seconds.scale 1000 = .finite product)
    (disabled : Bool) (thread : Int) (callers : List Caller) :
    ∃ trace,
      (∀ entry, ∃ o, record entry disabled seconds thread (callers.map Caller.frame) = .ok o ∧
        o.stackTrace = trace ∧
        ∀ looks : List Glance, ∀ answer ∈ looks.map o.glance,
          answer = .ok (.array (trace.map Frame.toJson)) ∨
            ∃ fault, o.date = .error fault ∧ answer = .error fault) ∧
      (disabled = true → trace = []) ∧
      (disabled = false → IsTrace (callers.map Caller.frame) trace ∧
        ∃ omitted, callers.map Caller.frame = omitted ++ trace ∧ ∀ f ∈ omitted, f.Inside) ∧
      ((∀ c ∈ callers, c.frame.Inside) → trace = []) := by
  refine ⟨shown disabled (callers.map Caller.frame), fun entry => ?_, ?_, ?_, ?_⟩
  · obtain ⟨o, made, same⟩ := record_eq finite entry disabled thread (callers.map Caller.frame)
    refine ⟨o, made, same, fun looks answer listed => ?_⟩
    obtain ⟨look, -, rfl⟩ := List.mem_map.mp listed
    rw [← same]
    exact o.glance_cases look
  · rintro rfl
    rfl
  · rintro rfl
    refine ⟨isTrace_dropWhile _, _, (List.takeWhile_append_dropWhile ..).symm, fun f listed => ?_⟩
    exact f.isOwn_iff.mp (List.mem_takeWhile_imp listed)
  · intro inside
    cases disabled with
    | true => rfl
    | false =>
      apply List.dropWhile_eq_nil_iff.mpr
      intro f listed
      obtain ⟨c, member, rfl⟩ := List.mem_map.mp listed
      exact c.frame.isOwn_iff.mpr (inside c member)

/-- The callers of a connection that are shown begin with the one whose module has no name. -/
theorem record_trace_nameless :
    let part : Caller := ⟨some "countervault.collector", "collector.py", 40, "restore"⟩
    let nameless : Caller := ⟨none, "<string>", 1, "<module>"⟩
    ∃ o, record .captured false (.finite 100000000) 7 ([part, nameless, part].map Caller.frame) = .ok o ∧
      o.stackTrace = [nameless.frame, part.frame] := by
  intro part nameless
  have finite : (Binary64.finite 100000000).scale 1000 = .finite 100000000000 := by decide +kernel
  have dropped : ([part, nameless, part].map Caller.frame).dropWhile Frame.isOwn =
      [nameless.frame, part.frame] := by decide +kernel
  obtain ⟨trace, each, -, whole, -⟩ := record_trace finite false 7 [part, nameless, part]
  obtain ⟨o, made, same, -⟩ := each .captured
  refine ⟨o, made, same.trans ?_⟩
  exact (whole rfl).1.unique (dropped ▸ isTrace_dropWhile _)

end Opening

end CounterArchive.Connection
