import Mathlib.Data.List.Nodup
import SizeHeader.Proofs.OwnTexts

/-!
# Growing catalogs

Messages are added to a catalog one after the other, and one whose code is taken is refused. So a
catalog grows at its end only: a code keeps the message that was first added for it, and what is made
of a code once it is there is made of it ever after.
-/

namespace SizeHeader.Catalog

/-- What adding a message returns, and the catalog after it. -/
def step (c : Catalog) (m : Message) : Except DuplicateCode Unit × Catalog :=
  match c.add m with
  | .ok grown => (.ok (), grown)
  | .error duplicate => (.error duplicate, c)

/-- The catalog after some messages. One that is refused does not keep the next ones from being
added. -/
def addAll (c : Catalog) (ms : List Message) : Catalog :=
  ms.foldl (fun c m => (c.step m).2) c

/-! ### One message -/

theorem step_of_find? {c : Catalog} {m present : Message} (h : c.find? m.code = some present) :
    c.step m = (.error ⟨present, m⟩, c) := by
  simp only [step, add, h]

theorem step_of_not_mem {c : Catalog} {m : Message} (h : m.code ∉ c.codes) :
    c.step m = (.ok (), ⟨c.messages ++ [m]⟩) := by
  have hadd : c.add m = .ok ⟨c.messages ++ [m]⟩ := add_eq_ok_iff.mpr ⟨h, rfl⟩
  simp only [step, hadd]

theorem step_eq (c : Catalog) (m : Message) :
    c.step m =
      match c.find? m.code with
      | some present => (.error ⟨present, m⟩, c)
      | none => (.ok (), ⟨c.messages ++ [m]⟩) := by
  cases hfind : c.find? m.code with
  | some present => exact step_of_find? hfind
  | none => exact step_of_not_mem (find?_eq_none_iff.mp hfind)

theorem exists_find?_of_mem {c : Catalog} {code : String} (h : code ∈ c.codes) :
    ∃ m, c.find? code = some m :=
  Option.ne_none_iff_exists'.mp (mt find?_eq_none_iff.mp (not_not.mpr h))

/-- Either a message is refused, and the catalog stays, or it becomes the last one. -/
theorem step_cases (c : Catalog) (m : Message) :
    (m.code ∈ c.codes ∧ (c.step m).2 = c) ∨
      (m.code ∉ c.codes ∧ (c.step m).2 = ⟨c.messages ++ [m]⟩) := by
  by_cases h : m.code ∈ c.codes
  · obtain ⟨present, hpresent⟩ := exists_find?_of_mem h
    exact .inl ⟨h, congrArg Prod.snd (step_of_find? hpresent)⟩
  · exact .inr ⟨h, congrArg Prod.snd (step_of_not_mem h)⟩

theorem messages_prefix_step (c : Catalog) (m : Message) :
    c.messages <+: (c.step m).2.messages := by
  obtain ⟨-, hstep⟩ | ⟨-, hstep⟩ := step_cases c m
  · simp [hstep]
  · rw [hstep]
    exact List.prefix_append c.messages [m]

theorem find?_step (c : Catalog) (m : Message) (code : String) :
    (c.step m).2.find? code = (c.find? code).or (if m.code = code then some m else none) := by
  obtain ⟨hmem, hstep⟩ | ⟨hmem, hstep⟩ := step_cases c m
  · rw [hstep]
    by_cases hcode : m.code = code
    · obtain ⟨present, hpresent⟩ := exists_find?_of_mem (hcode ▸ hmem)
      rw [hpresent, Option.some_or]
    · rw [if_neg hcode, Option.or_none]
  · rw [hstep]
    have hadd : c.add m = .ok ⟨c.messages ++ [m]⟩ := add_eq_ok_iff.mpr ⟨hmem, rfl⟩
    simpa using find?_of_add hadd code

theorem codes_append (c : Catalog) (m : Message) :
    codes ⟨c.messages ++ [m]⟩ = c.codes ++ [m.code] :=
  List.map_append

theorem nodup_step {c : Catalog} (h : c.codes.Nodup) (m : Message) : (c.step m).2.codes.Nodup := by
  obtain ⟨-, hstep⟩ | ⟨hmem, hstep⟩ := step_cases c m
  · rwa [hstep]
  · rw [hstep, codes_append]
    refine List.nodup_append.mpr ⟨h, List.nodup_singleton m.code, ?_⟩
    intro code hcode other hother
    rw [List.mem_singleton.mp hother]
    exact ne_of_mem_of_not_mem hcode hmem

/-! ### All messages -/

theorem addAll_cons (c : Catalog) (m : Message) (rest : List Message) :
    c.addAll (m :: rest) = (c.step m).2.addAll rest := rfl

theorem addAll_append (c : Catalog) (left right : List Message) :
    c.addAll (left ++ right) = (c.addAll left).addAll right :=
  List.foldl_append

theorem messages_prefix_addAll (c : Catalog) (ms : List Message) :
    c.messages <+: (c.addAll ms).messages := by
  induction ms generalizing c with
  | nil => exact List.prefix_refl c.messages
  | cons m rest ih =>
      rw [addAll_cons]
      exact (messages_prefix_step c m).trans (ih (c.step m).2)

theorem nodup_addAll {c : Catalog} (h : c.codes.Nodup) (ms : List Message) :
    (c.addAll ms).codes.Nodup := by
  induction ms generalizing c with
  | nil => exact h
  | cons m rest ih =>
      rw [addAll_cons]
      exact ih (nodup_step h m)

theorem find?_addAll (c : Catalog) (ms : List Message) (code : String) :
    (c.addAll ms).find? code = (c.find? code).or (ms.find? (·.code = code)) := by
  induction ms generalizing c with
  | nil => exact (Option.or_none).symm
  | cons m rest ih =>
      rw [addAll_cons, ih, find?_step, Option.or_assoc, List.find?_cons]
      by_cases hcode : m.code = code <;> simp [hcode]

/-- The codes that were there are followed by the new ones, in the order in which they first occur. -/
theorem codes_addAll (c : Catalog) (ms : List Message) :
    (c.addAll ms).codes = c.codes ++ ((ms.map (·.code)).removeAll c.codes).eraseDups := by
  induction ms generalizing c with
  | nil => simp [addAll, List.removeAll]
  | cons m rest ih =>
      rw [addAll_cons, ih, List.map_cons]
      obtain ⟨hmem, hstep⟩ | ⟨hmem, hstep⟩ := step_cases c m
      · have hskip : (m.code :: rest.map (·.code)).removeAll c.codes =
            (rest.map (·.code)).removeAll c.codes := by
          simp [List.removeAll, hmem]
        rw [hstep, hskip]
      · have hkeep : (m.code :: rest.map (·.code)).removeAll c.codes =
            m.code :: (rest.map (·.code)).removeAll c.codes := by
          simp [List.removeAll, hmem]
        -- What is new to the grown catalog was new before, but for the code that has just come in.
        have hnew : (rest.map (·.code)).removeAll (c.codes ++ [m.code]) =
            ((rest.map (·.code)).removeAll c.codes).filter (!· == m.code) := by
          simp only [List.removeAll, List.filter_filter]
          refine List.filter_congr fun code _ => ?_
          by_cases hcode : code = m.code <;> simp [hcode]
        rw [hstep, codes_append, hnew, hkeep, List.eraseDups_cons, List.append_assoc]
        rfl

theorem find?_addAll_of_mem {c : Catalog} {code : String} (h : code ∈ c.codes) (ms : List Message) :
    (c.addAll ms).find? code = c.find? code := by
  obtain ⟨m, hm⟩ := exists_find?_of_mem h
  rw [find?_addAll, hm, Option.some_or]

theorem format_addAll {c : Catalog} {code : String} (h : code ∈ c.codes) (ms : List Message)
    (args : Arguments) : (c.addAll ms).format code args = c.format code args := by
  simp only [format, find?_addAll_of_mem h ms]

theorem mem_codes_of_format {c : Catalog} {code text : String} {args : Arguments}
    (h : c.format code args = .ok text) : code ∈ c.codes := by
  by_contra hmem
  have hfind : c.find? code = none := find?_eq_none_iff.mpr hmem
  rw [format, hfind] at h
  cases hcheck : Operation.format.check args with
  | error fault => simp [hcheck, bind, Except.bind] at h
  | ok _ => simp [hcheck, bind, Except.bind, throw, throwThe, MonadExceptOf.throw] at h

/-! ### The messages of this program -/

/-- What this program itself asks its catalog for: the texts of its fatal errors, of the note that
announces its file, and of the error about a size. -/
inductive Request where
  | missingFilename
  | cannotOpen (path reason : String)
  | cannotWrite (path reason : String)
  | generating (path : String)
  | cannotSize (name reason : String)

namespace Request

def message : Request → Message
  | missingFilename => .missingFilename
  | cannotOpen _ _ => .cannotOpen
  | cannotWrite _ _ => .cannotWrite
  | generating _ => .generating
  | cannotSize _ _ => .cannotSize

def arguments : Request → Arguments
  | missingFilename => []
  | cannotOpen path reason => [("path", .text path), ("reason", .text reason)]
  | cannotWrite path reason => [("path", .text path), ("reason", .text reason)]
  | generating path => [("path", .text path)]
  | cannotSize name reason => [("name", .text name), ("reason", .text reason)]

def text : Request → String
  | missingFilename => "no filename supplied"
  | cannotOpen path reason => "can't open file '" ++ path ++ "': " ++ reason
  | cannotWrite path reason => "can't write file '" ++ path ++ "': " ++ reason
  | generating path => "Generating file: " ++ path
  | cannotSize name reason => "cannot determine size of '" ++ name ++ "': " ++ reason

theorem check_arguments (request : Request) (op : Operation) :
    op.check request.arguments = .ok () := by
  rw [Operation.check_eq_ok_iff]
  cases request <;> cases op <;> simp [arguments, Operation.reserved]

theorem format_builtin (request : Request) :
    builtin.format request.message.code request.arguments = .ok request.text := by
  cases request with
  | missingFilename => exact format_missingFilename
  | cannotOpen path reason => exact format_cannotOpen path reason
  | cannotWrite path reason => exact format_cannotWrite path reason
  | generating path => exact format_generating path
  | cannotSize name reason => exact format_cannotSize name reason

end Request

theorem find?_of_mem_messages {c : Catalog} (hcodes : c.codes.Nodup) {m : Message}
    (hm : m ∈ c.messages) : c.find? m.code = some m := by
  have hmem : m.code ∈ c.codes := List.mem_map_of_mem hm
  obtain ⟨first, hfirst⟩ := exists_find?_of_mem hmem
  have hsame : first = m :=
    List.inj_on_of_nodup_map hcodes (List.mem_of_find?_eq_some hfirst) hm (code_of_find? hfirst)
  rw [hfirst, hsame]

/-- **What becomes of a catalog.** However many messages are added to the program's own, and whichever
of them are refused: a message is found under its code and no code is there twice, the codes stand in
the order in which they first came, behind those of the program, and each has the first message that
was added for it. A message whose code is taken is refused and leaves the catalog as it is. Later
messages stand behind, what is made of a code that is there never changes, and the program gets each
of its own texts. -/
theorem addAll_builtin (ms : List Message) :
    let c := builtin.addAll ms
    ((∀ m ∈ c.messages, c.find? m.code = some m) ∧ c.codes.Nodup) ∧
    (c.codes = ["SD0001", "SD0002", "SD0003", "SD0100", "IE0002"] ++
      ((ms.map (·.code)).removeAll builtin.codes).eraseDups ∧
      ∀ code, c.find? code = (builtin.messages ++ ms).find? (·.code = code)) ∧
    (∀ m, c.step m =
      match c.find? m.code with
      | some present => (.error ⟨present, m⟩, c)
      | none => (.ok (), ⟨c.messages ++ [m]⟩)) ∧
    (∀ later, c.messages <+: (c.addAll later).messages ∧
      ∀ code ∈ c.codes, (c.addAll later).find? code = c.find? code ∧
        ∀ args, (c.addAll later).format code args = c.format code args) ∧
    ∀ request : Request, (∀ op : Operation, op.check request.arguments = .ok ()) ∧
      c.format request.message.code request.arguments = .ok request.text := by
  intro c
  have hcodes : c.codes.Nodup := nodup_addAll (by decide) ms
  refine ⟨⟨fun m hm => find?_of_mem_messages hcodes hm, hcodes⟩,
    ⟨codes_addAll builtin ms, ?_⟩, step_eq c, ?_, ?_⟩
  · intro code
    rw [List.find?_append]
    exact find?_addAll builtin ms code
  · intro later
    refine ⟨messages_prefix_addAll c later, fun code hcode => ?_⟩
    exact ⟨find?_addAll_of_mem hcode later, format_addAll hcode later⟩
  · intro request
    refine ⟨request.check_arguments, ?_⟩
    have hmem := mem_codes_of_format request.format_builtin
    rw [format_addAll hmem, request.format_builtin]

end SizeHeader.Catalog
