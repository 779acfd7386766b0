import CodeAtlas.Text.Parts

/-!
Stretches of a text: where one of them ends, and the parts of a text between separators.
-/
namespace CodeAtlas.Text

variable {p : Char → Bool} {c : Char}

theorem stretch_ends {cs : List Char} (inside : ∀ c ∈ cs, p c = true)
    (rest : List Char) (stop : ∀ c ∈ rest.head?, p c = false) :
    (cs ++ rest).takeWhile p = cs ∧ (cs ++ rest).dropWhile p = rest := by
  rw [List.takeWhile_append_of_pos inside, List.dropWhile_append_of_pos inside]
  cases rest with
  | nil => simp
  | cons c rest => simp [stop c rfl]

theorem dropWhile_before (stop : p c = false) (front rest : List Char) :
    (front ++ c :: rest).dropWhile p = front.dropWhile p ++ c :: rest := by
  induction front with
  | nil => simp [stop]
  | cons d front ih =>
    by_cases here : p d = true
    · simp [here, ih]
    · simp [here]

theorem takeWhile_before (stop : p c = false) (front rest : List Char) :
    (front ++ c :: rest).takeWhile p = front.takeWhile p := by
  induction front with
  | nil => simp [stop]
  | cons d front ih =>
    by_cases here : p d = true
    · simp [here, ih]
    · simp [here]

theorem head_dropWhile (cs : List Char) : ∀ c ∈ (cs.dropWhile p).head?, p c = false := by
  induction cs with
  | nil => simp
  | cons d cs ih =>
    by_cases here : p d = true
    · simpa [here] using ih
    · simp [here]

theorem mem_dropWhile (stays : p c = false) {cs : List Char} : c ∈ cs.dropWhile p ↔ c ∈ cs := by
  induction cs with
  | nil => simp
  | cons d cs ih =>
    by_cases here : p d = true
    · have other : c ≠ d := by
        rintro rfl
        rw [stays] at here
        cases here
      simp [here, ih, other]
    · simp [here]

theorem parts_of_plain {cs : List Char} (plain : ∀ c ∈ cs, p c = false) : parts p cs = [cs] := by
  induction cs with
  | nil => rfl
  | cons c cs ih =>
    obtain ⟨here, later⟩ := List.forall_mem_cons.mp plain
    simp [parts, here, ih later]

theorem parts_ne_nil (cs : List Char) : parts p cs ≠ [] := by
  cases cs with
  | nil => simp [parts]
  | cons c cs =>
    rw [parts]
    split
    · simp
    · split <;> simp

theorem parts_append (separates : p c = true) (front rest : List Char) :
    parts p (front ++ c :: rest) = parts p front ++ parts p rest := by
  induction front with
  | nil => simp [parts, separates]
  | cons d front ih =>
    rw [List.cons_append, parts, parts, ih]
    by_cases here : p d = true
    · simp [here]
    · cases first : parts p front with
      | nil => exact absurd first (parts_ne_nil front)
      | cons part more => simp [here]

theorem mem_parts {cs part : List Char} (member : part ∈ parts p cs) :
    part.Sublist cs ∧ ∀ c ∈ part, p c = false := by
  induction cs generalizing part with
  | nil =>
    rw [parts, List.mem_singleton] at member
    subst member
    simp
  | cons c cs ih =>
    rw [parts] at member
    split at member
    · rcases List.mem_cons.mp member with rfl | later
      · simp
      · exact ⟨(ih later).1.cons c, (ih later).2⟩
    · rename_i inner
      split at member
      · rename_i none
        exact absurd none (parts_ne_nil cs)
      · rename_i first more eq
        rcases List.mem_cons.mp member with rfl | later
        · have inside : first ∈ parts p cs := by simp [eq]
          obtain ⟨sub, clear⟩ := ih inside
          exact ⟨sub.cons_cons c, List.forall_mem_cons.mpr ⟨by simpa using inner, clear⟩⟩
        · have inside : part ∈ parts p cs := by simp [eq, later]
          obtain ⟨sub, clear⟩ := ih inside
          exact ⟨sub.cons c, clear⟩

end CodeAtlas.Text
