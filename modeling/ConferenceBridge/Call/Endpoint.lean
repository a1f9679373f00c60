import ConferenceBridge.Call.Error
import ConferenceBridge.Text.Blank

namespace ConferenceBridge

/-! The address of a participant: any text with a character that is not blank, kept as given.
Addresses are ordered as their texts are, by code points. -/

structure Endpoint where
  text : String
  notBlank : Text.allBlank text = false := by decide
  deriving DecidableEq, Repr

namespace Endpoint

def ofString (text : String) : Except ValueError Endpoint :=
  if h : Text.allBlank text = false then .ok ⟨text, h⟩ else .error (.endpoint text)

@[ext] theorem ext {first second : Endpoint} (h : first.text = second.text) : first = second := by
  cases first
  cases second
  simp_all

@[simp] theorem ofString_text (endpoint : Endpoint) : ofString endpoint.text = .ok endpoint := by
  simp [ofString, endpoint.notBlank]

theorem ofString_eq_ok_iff {text : String} {endpoint : Endpoint} :
    ofString text = .ok endpoint ↔ endpoint.text = text := by
  constructor
  · intro h
    unfold ofString at h
    split at h <;> cases h
    rfl
  · rintro rfl
    exact ofString_text endpoint

theorem ofString_eq_error_iff {text : String} {error : ValueError} :
    ofString text = .error error ↔ Text.allBlank text ∧ error = .endpoint text := by
  unfold ofString
  split
  · simp_all
  · rename_i h
    have hblank : Text.allBlank text = true := by simpa using h
    simp [hblank, eq_comm]

instance : LE Endpoint := ⟨fun first second => first.text ≤ second.text⟩

instance (first second : Endpoint) : Decidable (first ≤ second) :=
  inferInstanceAs (Decidable (first.text ≤ second.text))

def sortDistinct (endpoints : List Endpoint) : List Endpoint :=
  endpoints.eraseDups.mergeSort

@[simp] theorem mem_sortDistinct {endpoints : List Endpoint} {endpoint : Endpoint} :
    endpoint ∈ sortDistinct endpoints ↔ endpoint ∈ endpoints := by
  simp [sortDistinct]

theorem nodup_eraseDups (endpoints : List Endpoint) : endpoints.eraseDups.Nodup := by
  cases endpoints with
  | nil => exact .nil
  | cons endpoint rest =>
      rw [List.eraseDups_cons, List.nodup_cons]
      constructor
      · intro hmem
        have := List.mem_eraseDups.1 hmem
        simp at this
      · exact nodup_eraseDups _
termination_by endpoints.length
decreasing_by
  have := List.length_filter_le (fun other => !other == endpoint) rest
  simp only [List.length_cons]
  omega

theorem nodup_sortDistinct (endpoints : List Endpoint) : (sortDistinct endpoints).Nodup := by
  rw [sortDistinct, (List.mergeSort_perm _ _).nodup_iff]
  exact nodup_eraseDups endpoints

theorem pairwise_sortDistinct (endpoints : List Endpoint) :
    (sortDistinct endpoints).Pairwise (· ≤ ·) := by
  have := @List.pairwise_mergeSort _ (fun first second : Endpoint => decide (first ≤ second))
    (fun first second third h h' => by
      simp only [decide_eq_true_eq] at *
      exact String.le_trans h h')
    (fun first second => by
      simp only [Bool.or_eq_true, decide_eq_true_eq]
      exact String.le_total first.text second.text) endpoints.eraseDups
  simpa [sortDistinct] using this

end Endpoint

end ConferenceBridge
