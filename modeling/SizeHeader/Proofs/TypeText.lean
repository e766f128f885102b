import SizeHeader.Proofs.TextReading
import SizeHeader.Record

/-!
# The text of a type

The text of a type can be read in one way only. Every kind of type begins in its own way, a numeral
ends before the first character that can be in none, and a type within another one is followed by a
comma or a closing bracket, so that a pointer without a number is not taken for the beginning of one
with a number. Types with one text are therefore one type.
-/

namespace SizeHeader

namespace DataType

/-! ### Texts as lists of characters -/

theorem toList_text_integer (width : Nat) :
    (integer width).text.toList = 'i' :: (width : Int).repr.toList := by
  rw [text, String.toList_append]
  rfl

/-- What is written behind the word for pointers. -/
def spaceChars (space : Int) : List Char :=
  if space = 0 then [] else " addrspace(".toList ++ space.repr.toList ++ [')']

theorem toList_text_pointer (space : Int) :
    (pointer space).text.toList = 'p' :: 't' :: 'r' :: spaceChars space := by
  rw [text, spaceChars]
  split
  · rfl
  · rw [String.toList_append, String.toList_append]
    rfl

theorem toList_text_array (count : Int) (element : DataType) :
    (array count element).text.toList =
      '[' :: (count.repr.toList ++ (' ' :: 'x' :: ' ' :: (element.text.toList ++ [']']))) := by
  simp [text]

theorem toList_text_struct (members : List DataType) :
    (struct members false).text.toList = '{' :: ((listText members).toList ++ ['}']) := by
  simp [text]

theorem toList_text_packed (members : List DataType) :
    (struct members true).text.toList = '<' :: '{' :: ((listText members).toList ++ ['}', '>']) := by
  simp [text]

theorem toList_listText_cons (t : DataType) (rest : List DataType) :
    (listText (t :: rest)).toList = t.text.toList ++ (tailText rest).toList := by
  rw [listText, String.toList_append]

theorem toList_tailText_cons (t : DataType) (rest : List DataType) :
    (tailText (t :: rest)).toList = ',' :: ' ' :: (t.text.toList ++ (tailText rest).toList) := by
  simp [tailText]

/-! ### Reading -/

/-- What may follow a type: nothing, a further type, or the end of the type that it stands in. -/
def Delimited (rest : List Char) : Prop := ∀ c ∈ rest.head?, c = ',' ∨ c = ']' ∨ c = '}'

theorem delimited_nil : Delimited [] := by simp [Delimited]

theorem delimited_cons {c : Char} (hc : c = ',' ∨ c = ']' ∨ c = '}') (rest : List Char) :
    Delimited (c :: rest) :=
  Text.forall_head?_cons hc rest

theorem Delimited.not_inNumeral {rest : List Char} (h : Delimited rest) :
    ∀ c ∈ rest.head?, ¬Text.InNumeral c := by
  intro c hc
  rcases h c hc with rfl | rfl | rfl <;> decide

theorem Delimited.ne_blank_cons {rest : List Char} (h : Delimited rest) (s : List Char) :
    rest ≠ ' ' :: s := by
  rintro rfl
  have hblank := h ' ' rfl
  simp at hblank

theorem delimited_tailText_append (rest : List DataType) (s : List Char) :
    Delimited ((tailText rest).toList ++ '}' :: s) := by
  cases rest with
  | nil => exact delimited_cons (by decide) _
  | cons t rest =>
    rw [toList_tailText_cons]
    exact delimited_cons (by decide) _

theorem spaceChars_append_inj {a b : Int} {r s : List Char} (hr : Delimited r) (hs : Delimited s)
    (h : spaceChars a ++ r = spaceChars b ++ s) : a = b ∧ r = s := by
  unfold spaceChars at h
  -- With one number left out, the text behind the short pointer would begin with a blank.
  by_cases ha : a = 0 <;> by_cases hb : b = 0
  · rw [if_pos ha, if_pos hb] at h
    exact ⟨ha.trans hb.symm, h⟩
  · rw [if_pos ha, if_neg hb] at h
    exact absurd h (hr.ne_blank_cons _)
  · rw [if_neg ha, if_pos hb] at h
    exact absurd h.symm (hs.ne_blank_cons _)
  · rw [if_neg ha, if_neg hb] at h
    simp only [List.append_assoc, List.append_cancel_left_eq] at h
    obtain ⟨rfl, hrest⟩ := Text.repr_append_inj (Text.forall_head?_cons (by decide) r)
      (Text.forall_head?_cons (by decide) s) h
    exact ⟨rfl, (List.cons.inj hrest).2⟩

/-- What a type is, apart from its numbers and parts. -/
inductive Form where
  | integer
  | float (format : FloatFormat)
  | pointer
  | void
  | label
  | array
  | struct (packed : Bool)

def Form.opening : Form → Char
  | integer => 'i'
  | float .half => 'h'
  | float .single => 'f'
  | float .double => 'd'
  | pointer => 'p'
  | void => 'v'
  | label => 'l'
  | array => '['
  | struct false => '{'
  | struct true => '<'

def form : DataType → Form
  | integer _ => .integer
  | float format => .float format
  | pointer _ => .pointer
  | void => .void
  | label => .label
  | array _ _ => .array
  | struct _ packed => .struct packed

/-- The form that begins with a character, if there is one. -/
def Form.ofOpening? : Char → Option Form
  | 'i' => some integer
  | 'h' => some (float .half)
  | 'f' => some (float .single)
  | 'd' => some (float .double)
  | 'p' => some pointer
  | 'v' => some void
  | 'l' => some label
  | '[' => some array
  | '{' => some (struct false)
  | '<' => some (struct true)
  | _ => none

theorem Form.ofOpening?_opening (form : Form) : ofOpening? form.opening = some form := by
  rcases form with _ | (_ | _ | _) | _ | _ | _ | _ | (_ | _) <;> rfl

/-- A type's text begins as its form tells. -/
theorem exists_toList_text (t : DataType) : ∃ rest, t.text.toList = t.form.opening :: rest := by
  cases t with
  | integer width => exact ⟨_, toList_text_integer width⟩
  | float format => cases format <;> exact ⟨_, rfl⟩
  | pointer space => exact ⟨_, toList_text_pointer space⟩
  | void => exact ⟨_, rfl⟩
  | label => exact ⟨_, rfl⟩
  | array count element => exact ⟨_, toList_text_array count element⟩
  | struct members packed =>
    cases packed with
    | false => exact ⟨_, toList_text_struct members⟩
    | true => exact ⟨_, toList_text_packed members⟩

theorem form_eq_of_append {t u : DataType} {r s : List Char}
    (h : t.text.toList ++ r = u.text.toList ++ s) : t.form = u.form := by
  obtain ⟨front, ht⟩ := exists_toList_text t
  obtain ⟨front', hu⟩ := exists_toList_text u
  rw [ht, hu] at h
  have hopening : t.form.opening = u.form.opening := (List.cons.inj h).1
  rw [← Option.some_inj, ← Form.ofOpening?_opening, hopening, Form.ofOpening?_opening]

theorem text_append_ne_brace (t : DataType) (r s : List Char) : t.text.toList ++ r ≠ '}' :: s := by
  obtain ⟨front, ht⟩ := exists_toList_text t
  rw [ht]
  intro h
  have hopening : t.form.opening = '}' := (List.cons.inj h).1
  have hform := t.form.ofOpening?_opening
  rw [hopening] at hform
  cases hform

mutual

/-- A type can be read off the front of a text in one way only. The induction is on the one type; the
first character then leaves no other form to the other one. -/
theorem text_append_inj : ∀ (t u : DataType) {r s : List Char}, Delimited r → Delimited s →
    t.text.toList ++ r = u.text.toList ++ s → t = u ∧ r = s
  | integer m, u, r, s, hr, hs, h => by
      have hform := form_eq_of_append h
      cases u with
      | integer n =>
        rw [toList_text_integer, toList_text_integer] at h
        obtain ⟨hwidth, hrest⟩ :=
          Text.repr_append_inj hr.not_inNumeral hs.not_inNumeral (List.cons.inj h).2
        exact ⟨congrArg integer (Int.ofNat_inj.mp hwidth), hrest⟩
      | _ => cases hform
  | float f, u, r, s, _, _, h => by
      have hform := form_eq_of_append h
      cases u with
      | float g =>
        cases hform
        exact ⟨rfl, List.append_cancel_left h⟩
      | _ => cases hform
  | pointer a, u, r, s, hr, hs, h => by
      have hform := form_eq_of_append h
      cases u with
      | pointer b =>
        rw [toList_text_pointer, toList_text_pointer] at h
        simp only [List.cons_append, List.cons.injEq, true_and] at h
        obtain ⟨rfl, hrest⟩ := spaceChars_append_inj hr hs h
        exact ⟨rfl, hrest⟩
      | _ => cases hform
  | void, u, r, s, _, _, h => by
      have hform := form_eq_of_append h
      cases u with
      | void => exact ⟨rfl, List.append_cancel_left h⟩
      | _ => cases hform
  | label, u, r, s, _, _, h => by
      have hform := form_eq_of_append h
      cases u with
      | label => exact ⟨rfl, List.append_cancel_left h⟩
      | _ => cases hform
  | array m t, u, r, s, _, _, h => by
      have hform := form_eq_of_append h
      cases u with
      | array n u =>
        rw [toList_text_array, toList_text_array] at h
        simp only [List.cons_append, List.append_assoc, List.cons.injEq, true_and] at h
        obtain ⟨rfl, helement⟩ := Text.repr_append_inj (Text.forall_head?_cons (by decide) _)
          (Text.forall_head?_cons (by decide) _) h
        simp only [List.cons.injEq, true_and] at helement
        obtain ⟨rfl, hrest⟩ := text_append_inj t u (delimited_cons (by decide) _)
          (delimited_cons (by decide) _) helement
        exact ⟨rfl, (List.cons.inj hrest).2⟩
      | _ => cases hform
  | struct ts false, u, r, s, _, _, h => by
      have hform := form_eq_of_append h
      cases u with
      | struct us packed =>
        cases hform
        rw [toList_text_struct, toList_text_struct] at h
        simp only [List.cons_append, List.append_assoc, List.cons.injEq, true_and] at h
        obtain ⟨rfl, hrest⟩ := listText_append_inj ts us h
        exact ⟨rfl, hrest⟩
      | _ => cases hform
  | struct ts true, u, r, s, _, _, h => by
      have hform := form_eq_of_append h
      cases u with
      | struct us packed =>
        cases hform
        rw [toList_text_packed, toList_text_packed] at h
        simp only [List.cons_append, List.append_assoc, List.cons.injEq, true_and] at h
        obtain ⟨rfl, hrest⟩ := listText_append_inj ts us h
        exact ⟨rfl, (List.cons.inj hrest).2⟩
      | _ => cases hform

theorem listText_append_inj : ∀ (ts us : List DataType) {r s : List Char},
    (listText ts).toList ++ '}' :: r = (listText us).toList ++ '}' :: s → ts = us ∧ r = s
  | [], [], r, s, h => ⟨rfl, (List.cons.inj h).2⟩
  | [], u :: us, r, s, h => by
      rw [toList_listText_cons, List.append_assoc] at h
      exact absurd h.symm (text_append_ne_brace u _ _)
  | t :: ts, [], r, s, h => by
      rw [toList_listText_cons, List.append_assoc] at h
      exact absurd h (text_append_ne_brace t _ _)
  | t :: ts, u :: us, r, s, h => by
      rw [toList_listText_cons, toList_listText_cons, List.append_assoc, List.append_assoc] at h
      obtain ⟨rfl, htail⟩ := text_append_inj t u (delimited_tailText_append ts r)
        (delimited_tailText_append us s) h
      obtain ⟨rfl, hrest⟩ := tailText_append_inj ts us htail
      exact ⟨rfl, hrest⟩

theorem tailText_append_inj : ∀ (ts us : List DataType) {r s : List Char},
    (tailText ts).toList ++ '}' :: r = (tailText us).toList ++ '}' :: s → ts = us ∧ r = s
  | [], [], r, s, h => ⟨rfl, (List.cons.inj h).2⟩
  | [], u :: us, r, s, h => by
      rw [toList_tailText_cons] at h
      exact absurd (List.cons.inj h).1 (by decide)
  | t :: ts, [], r, s, h => by
      rw [toList_tailText_cons] at h
      exact absurd (List.cons.inj h).1 (by decide)
  | t :: ts, u :: us, r, s, h => by
      rw [toList_tailText_cons, toList_tailText_cons] at h
      simp only [List.cons_append, List.append_assoc, List.cons.injEq, true_and] at h
      obtain ⟨rfl, htail⟩ := text_append_inj t u (delimited_tailText_append ts r)
        (delimited_tailText_append us s) h
      obtain ⟨rfl, hrest⟩ := tailText_append_inj ts us htail
      exact ⟨rfl, hrest⟩

end

theorem text_injective : Function.Injective text := by
  intro t u h
  have hchars : t.text.toList ++ [] = u.text.toList ++ [] := by rw [h]
  exact (text_append_inj t u delimited_nil delimited_nil hchars).1

end DataType

namespace Record

/-- **The text of a type identifies the type.** Two records have one text exactly if the types of their
members are the same, in the same order; the names do not matter. So the text alone decides what the
size of a record is, or why it has none. -/
theorem text_eq_iff_fields :
    (∀ r s : Record,
      r.dataType.text = s.dataType.text ↔ r.fields.map (·.2) = s.fields.map (·.2)) ∧
    ∀ layout : DataLayout, Function.FactorsThrough (size layout) fun r => r.dataType.text := by
  refine ⟨fun r s => ?_, fun layout r s htext => ?_⟩
  · rw [DataType.text_injective.eq_iff, dataType, dataType, DataType.struct.injEq]
    exact and_iff_left rfl
  · have htype : r.dataType = s.dataType := DataType.text_injective htext
    rw [size, size, signedSize, signedSize, htype]

end Record

end SizeHeader
