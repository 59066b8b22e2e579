import Understudy.Slip
import Understudy.Value.Alike
import Understudy.Value.Shown

/-! Recoverable problems, collected once each in the order of their first report.

Subject and message are values, since a document may name a declaration by any value; two reports
count as one if their parts do.
-/

set_option autoImplicit false

namespace Understudy

inductive DiagnosticKind where
  | unresolvedReference
  | duplicateDefinition
  deriving DecidableEq, Repr

namespace DiagnosticKind

def keyword : DiagnosticKind → String
  | .unresolvedReference => "UnresolvedReference"
  | .duplicateDefinition => "DuplicateDefinition"

def list : List DiagnosticKind := [.unresolvedReference, .duplicateDefinition]

def ofValue? (value : Value) : Option DiagnosticKind := list.find? (.text ·.keyword == value)

end DiagnosticKind

structure Diagnostic where
  kind : DiagnosticKind
  subject : Value
  message : Value
  deriving DecidableEq, Repr

namespace Diagnostic

def note (kind : DiagnosticKind) (subject message : String) : Diagnostic :=
  ⟨kind, .text subject, .text message⟩

def text (d : Diagnostic) : String :=
  d.kind.keyword ++ ": " ++ d.subject.shown ++ ": " ++ d.message.shown

/-- The form that all reports share that count as one. -/
def canon (d : Diagnostic) : Diagnostic := ⟨d.kind, d.subject.canon, d.message.canon⟩

end Diagnostic

abbrev Diagnostics := List Diagnostic

namespace Diagnostics

def has (ds : Diagnostics) (d : Diagnostic) : Bool := ds.any (·.canon == d.canon)

/-- Add a report unless it is there already. -/
def report (ds : Diagnostics) (d : Diagnostic) : Diagnostics := if ds.has d then ds else ds ++ [d]

def reportAll (ds : Diagnostics) (new : List Diagnostic) : Diagnostics := new.foldl report ds

def ofKind (ds : Diagnostics) (kind : DiagnosticKind) : Diagnostics :=
  ds.filter (·.kind == kind)

/-- Report parts as they are given. The kind has to be a known one, and neither subject nor
message can be a list or an object, which cannot be looked for among earlier reports. -/
def reportGiven (ds : Diagnostics) (parts : Value) : Except Slip (Diagnostics × Diagnostic) :=
  match parts.parts? with
  | none => .error .wrongType
  | some [kind, subject, message] =>
    match DiagnosticKind.ofValue? kind with
    | none => .error .badValue
    | some kind =>
      let d : Diagnostic := ⟨kind, subject, message⟩
      if subject.isPlain && message.isPlain then .ok (ds.report d, d) else .error .wrongType
  | some _ => .error .badValue

theorem has_eq_true {ds : Diagnostics} {d : Diagnostic} :
    ds.has d = true ↔ ∃ e ∈ ds, e.canon = d.canon := by simp [has]

theorem has_of_mem {ds : Diagnostics} {d : Diagnostic} (h : d ∈ ds) : ds.has d = true :=
  has_eq_true.2 ⟨d, h, rfl⟩

theorem report_of_mem {ds : Diagnostics} {d : Diagnostic} (h : d ∈ ds) : ds.report d = ds := by
  simp [report, has_of_mem h]

theorem mem_report {ds : Diagnostics} {d e : Diagnostic} :
    e ∈ ds.report d ↔ e ∈ ds ∨ e = d ∧ ds.has d = false := by
  simp only [report]
  split <;> simp_all

theorem nodup_report {ds : Diagnostics} (h : (ds.map Diagnostic.canon).Nodup) (d : Diagnostic) :
    ((ds.report d).map Diagnostic.canon).Nodup := by
  simp only [report]
  split
  · exact h
  · next hd =>
    rw [Bool.not_eq_true, ← Bool.not_eq_true, has_eq_true] at hd
    rw [List.map_append, List.nodup_append]
    refine ⟨h, by simp, ?_⟩
    rintro a ha b hb rfl
    obtain ⟨e, he, rfl⟩ := List.mem_map.1 ha
    simp only [List.map_cons, List.map_nil, List.mem_singleton] at hb
    exact hd ⟨e, he, hb⟩

theorem nodup_reportAll {ds : Diagnostics} (h : (ds.map Diagnostic.canon).Nodup)
    (new : List Diagnostic) : ((ds.reportAll new).map Diagnostic.canon).Nodup := by
  induction new generalizing ds with
  | nil => exact h
  | cons d rest ih => exact ih (nodup_report h d)

end Diagnostics
end Understudy
