import Mathlib.Data.List.Infix

/-! Occurrences of a word in a text: across a separator, through an encoding of the letters,
and in a text that is wrapped between two tags. -/

namespace AccessAgent.Semantics
variable {α β : Type}

/-! ### Where a word can lie -/

/-- A word does not reach over a letter that it does not contain. -/
theorem infix_separated {word left right : List α} {separator : α} (absent : separator ∉ word) :
    word <:+: left ++ separator::right ↔ word <:+: left ∨ word <:+: right := by
  have outside : ∀ back : List α, (∀ letter ∈ back, letter ∈ word) → back <+: separator::right → back = [] := by
    intro back inside begins
    cases back with
    | nil => rfl
    | cons letter rest =>
      obtain ⟨rfl,_⟩ := List.cons_prefix_cons.mp begins
      exact absurd (inside letter (by simp)) absent
  constructor
  · intro found
    rcases List.infix_append_iff.mp found with before | after | ⟨front,back,rfl,ends,begins⟩
    · exact Or.inl before
    · rcases List.infix_cons_iff.mp after with begins | inside
      · rw [outside word (fun _ member => member) begins]
        exact Or.inl List.nil_infix
      · exact Or.inr inside
    · rw [outside back (fun letter member => by simp [member]) begins,List.append_nil]
      exact Or.inl ends.isInfix
  · rintro (before | after)
    · exact List.infix_append_of_infix_left before
    · exact List.infix_append_of_infix_right (after.trans (List.suffix_cons separator right).isInfix)

/-- A word does not begin where its first letter is missing. -/
theorem infix_skip {first : α} {word before rest : List α} (absent : first ∉ before) :
    first::word <:+: before ++ rest ↔ first::word <:+: rest := by
  constructor
  · intro found
    rcases List.infix_append_iff.mp found with inside | after | ⟨front,back,shape,ends,begins⟩
    · exact absurd (inside.subset (by simp)) absent
    · exact after
    · cases front with
      | nil =>
        rw [shape]
        exact begins.isInfix
      | cons letter others =>
        obtain ⟨rfl,_⟩ := List.cons.inj shape
        exact absurd (ends.subset (by simp)) absent
  · exact List.infix_append_of_infix_right

/-- What is joined with a separator holds what the parts hold. -/
theorem mem_intercalate {separator letter : α} {parts : List (List α)} (other : letter ≠ separator) :
    letter ∈ [separator].intercalate parts ↔ ∃ part ∈ parts, letter ∈ part := by
  induction parts with
  | nil => simp
  | cons part rest ih =>
    by_cases last : rest = []
    · subst last
      simp
    · rw [List.intercalate_cons_of_ne_nil last]
      simp [ih,other]

/-! ### Letters that are encoded -/

/-- The encoding keeps the letters of the word, and begins any other with a letter that is not of the word. -/
structure Transparent (encode : α → List α) (first : α) (word : List α) : Prop where
  kept : ∀ letter ∈ first::word, encode letter = [letter]
  other : ∀ letter ∉ first::word, ∃ head tail, encode letter = head::tail ∧ head ∉ first::word ∧ first ∉ tail

namespace Transparent
variable {encode : α → List α} {first : α} {word : List α} (transparent : Transparent encode first word)
include transparent

theorem prefix_encoded {part text : List α} (within : ∀ letter ∈ part, letter ∈ first::word) :
    part <+: text.flatMap encode ↔ part <+: text := by
  induction text generalizing part with
  | nil => rfl
  | cons letter rest ih =>
    rw [List.flatMap_cons]
    cases part with
    | nil => simp
    | cons begins others =>
      obtain ⟨here,later⟩ := List.forall_mem_cons.mp within
      by_cases member : letter ∈ first::word
      · rw [transparent.kept letter member,List.singleton_append,List.cons_prefix_cons,List.cons_prefix_cons,ih later]
      · obtain ⟨head,tail,shape,outside,_⟩ := transparent.other letter member
        rw [shape,List.cons_append,List.cons_prefix_cons,List.cons_prefix_cons]
        refine iff_of_false ?_ ?_
        · rintro ⟨rfl,_⟩
          exact outside here
        · rintro ⟨rfl,_⟩
          exact member here

/-- The word occurs in the encoded text exactly where it occurs in the text. -/
theorem infix_encoded {text : List α} : first::word <:+: text.flatMap encode ↔ first::word <:+: text := by
  induction text with
  | nil => rfl
  | cons letter rest ih =>
    rw [List.flatMap_cons]
    by_cases member : letter ∈ first::word
    · have begins : first::word <+: (letter::rest).flatMap encode ↔ first::word <+: letter::rest :=
        transparent.prefix_encoded fun _ inside => inside
      rw [List.flatMap_cons,transparent.kept letter member,List.singleton_append] at begins
      rw [transparent.kept letter member,List.singleton_append,List.infix_cons_iff,List.infix_cons_iff,begins,ih]
    · obtain ⟨head,tail,shape,outside,absent⟩ := transparent.other letter member
      have skipped : first ∉ head::tail := by
        rw [List.mem_cons]
        rintro (rfl | inside)
        · exact outside (by simp)
        · exact absent inside
      have alone : first ∉ [letter] := by
        rw [List.mem_singleton]
        rintro rfl
        exact member (by simp)
      rw [shape,infix_skip skipped,ih]
      exact (infix_skip alone).symm

end Transparent

/-! ### A text between two tags -/

def Occurs (word text : List α) (place : Nat) : Prop := word <+: text.drop place

theorem Occurs.infix {word text : List α} {place : Nat} (here : Occurs word text place) : word <:+: text :=
  here.isInfix.trans (List.drop_suffix place text).isInfix

theorem occurs_between (before word after : List α) : Occurs word (before ++ word ++ after) before.length := by
  rw [Occurs,List.append_assoc,List.drop_left]
  exact List.prefix_append word after

variable [DecidableEq α]

/-- The place of the first occurrence. -/
def firstPlace (word : List α) : List α → Option Nat
  | [] => if word = [] then some 0 else none
  | letter::rest => if word <+: letter::rest then some 0 else (firstPlace word rest).map (· + 1)

theorem firstPlace_some {word text : List α} {place : Nat} (here : Occurs word text place) (inside : place ≤ text.length)
    (first : ∀ earlier < place, ¬Occurs word text earlier) : firstPlace word text = some place := by
  induction text generalizing place with
  | nil =>
    obtain rfl : place = 0 := by simpa using inside
    rw [firstPlace,if_pos (List.prefix_nil.mp here)]
  | cons letter rest ih =>
    cases place with
    | zero => rw [firstPlace,if_pos (show word <+: letter::rest from here)]
    | succ later =>
      rw [firstPlace,if_neg (show ¬word <+: letter::rest from first 0 (by omega))]
      have found : firstPlace word rest = some later :=
        ih here (by simpa using inside) fun earlier before => first (earlier + 1) (by omega)
      rw [found]
      rfl

/-- What stands between the first opening tag and the first closing tag. -/
def between (opening closing text : List α) : Option (List α) := do
  let start ← firstPlace opening text
  let stop ← firstPlace closing text
  return (text.take stop).drop (start + opening.length)

/-- The tags stand at the two ends and nowhere else, and the content is what stands between them. -/
structure Delimited (opening closing content text : List α) : Prop where
  opens : ∀ place, Occurs opening text place ↔ place = 0
  closes : ∀ place, Occurs closing text place ↔ place + closing.length = text.length
  reads : between opening closing text = some content

/-- Two tags that are set off from the content by a separator. -/
structure Tags (α : Type) where
  opening : List α
  closing : List α
  separator : α
  opens : opening ≠ []
  closes : closing ≠ []
  openingPlain : separator ∉ opening
  closingPlain : separator ∉ closing
  openingApart : ¬opening <:+: closing
  closingApart : ¬closing <:+: opening

namespace Tags
variable (tags : Tags α)

def inner (content : List α) : List α := tags.separator::(content ++ [tags.separator])

def wrap (content : List α) : List α := tags.opening ++ tags.inner content ++ tags.closing

omit [DecidableEq α] in
theorem wrap_split (content : List α) :
    tags.wrap content = tags.opening ++ tags.separator::(content ++ tags.separator::tags.closing) := by
  simp [wrap,inner]

omit [DecidableEq α] in
theorem opens_iff {content : List α} (clean : ¬tags.opening <:+: content) (place : Nat) :
    Occurs tags.opening (tags.wrap content) place ↔ place = 0 := by
  constructor
  · intro here
    cases place with
    | zero => rfl
    | succ later =>
      have beyond : tags.opening <:+: tags.opening.tail ++ tags.separator::(content ++ tags.separator::tags.closing) := by
        have inside : Occurs tags.opening (tags.wrap content).tail later := by
          rw [Occurs,List.drop_tail]
          exact here
        rw [wrap_split,List.tail_append_of_ne_nil tags.opens] at inside
        exact inside.infix
      rw [infix_separated tags.openingPlain,infix_separated tags.openingPlain] at beyond
      rcases beyond with early | inside | late
      · have length := early.length_le
        have positive := List.length_pos_iff.mpr tags.opens
        rw [List.length_tail] at length
        omega
      · exact absurd inside clean
      · exact absurd late tags.openingApart
  · rintro rfl
    rw [wrap,List.append_assoc]
    exact List.prefix_append _ _

omit [DecidableEq α] in
theorem closes_iff {content : List α} (clean : ¬tags.closing <:+: content) (place : Nat) :
    Occurs tags.closing (tags.wrap content) place ↔ place + tags.closing.length = (tags.wrap content).length := by
  constructor
  · intro here
    obtain ⟨after,shape⟩ := here
    have size := congrArg List.length shape
    rw [List.length_append,List.length_drop] at size
    cases after using List.reverseRecOn with
    | nil =>
      have positive := List.length_pos_iff.mpr tags.closes
      rw [List.length_nil] at size
      omega
    | append_singleton before last =>
      have beyond : tags.closing <:+: tags.opening ++ tags.separator::(content ++ tags.separator::tags.closing.dropLast) := by
        have whole : tags.wrap content = (tags.wrap content).take place ++ (tags.closing ++ (before ++ [last])) := by
          rw [shape,List.take_append_drop]
        have cut := congrArg List.dropLast whole
        rw [← List.append_assoc,← List.append_assoc,List.dropLast_concat,wrap_split] at cut
        have shorter : (tags.opening ++ tags.separator::(content ++ tags.separator::tags.closing)).dropLast =
            tags.opening ++ tags.separator::(content ++ tags.separator::tags.closing.dropLast) := by
          rw [List.dropLast_append_of_ne_nil (by simp),List.dropLast_cons_of_ne_nil (by simp),
            List.dropLast_append_of_ne_nil (by simp),List.dropLast_cons_of_ne_nil tags.closes]
        rw [← shorter,cut]
        exact ⟨_,before,rfl⟩
      rw [infix_separated tags.closingPlain,infix_separated tags.closingPlain] at beyond
      rcases beyond with early | inside | late
      · exact absurd early tags.closingApart
      · exact absurd inside clean
      · have length := late.length_le
        have positive := List.length_pos_iff.mpr tags.closes
        rw [List.length_dropLast] at length
        omega
  · intro last
    obtain rfl : place = (tags.opening ++ tags.inner content).length := by
      rw [wrap,List.length_append] at last
      omega
    have here := occurs_between (tags.opening ++ tags.inner content) tags.closing []
    rwa [List.append_nil] at here

theorem reads_wrap {content : List α} (opens : ¬tags.opening <:+: content) (closes : ¬tags.closing <:+: content) :
    between tags.opening tags.closing (tags.wrap content) = some (tags.inner content) := by
  have start : firstPlace tags.opening (tags.wrap content) = some 0 :=
    firstPlace_some ((tags.opens_iff opens 0).mpr rfl) (Nat.zero_le _) (by simp)
  have size : (tags.opening ++ tags.inner content).length + tags.closing.length = (tags.wrap content).length := by
    simp only [wrap,List.length_append]
  have stop : firstPlace tags.closing (tags.wrap content) = some (tags.opening ++ tags.inner content).length := by
    refine firstPlace_some ((tags.closes_iff closes _).mpr size) (by omega) ?_
    intro earlier before here
    have last := (tags.closes_iff closes earlier).mp here
    omega
  rw [between,start,stop]
  change some (((tags.wrap content).take (tags.opening ++ tags.inner content).length).drop (0 + tags.opening.length)) = _
  rw [wrap,List.take_left,Nat.zero_add,List.drop_left]

/-- The tags delimit exactly the contents that contain neither of them. -/
theorem delimited_iff (content : List α) :
    Delimited tags.opening tags.closing (tags.inner content) (tags.wrap content) ↔
      ¬tags.opening <:+: content ∧ ¬tags.closing <:+: content := by
  constructor
  · intro delimited
    refine ⟨?_,?_⟩
    · rintro ⟨before,after,rfl⟩
      have here := occurs_between (tags.opening ++ tags.separator::before) tags.opening
        (after ++ tags.separator::tags.closing)
      have whole : tags.opening ++ tags.separator::before ++ tags.opening ++ (after ++ tags.separator::tags.closing) =
          tags.wrap (before ++ tags.opening ++ after) := by simp [wrap_split]
      rw [whole,delimited.opens,List.length_append,List.length_cons] at here
      omega
    · rintro ⟨before,after,rfl⟩
      have here := occurs_between (tags.opening ++ tags.separator::before) tags.closing
        (after ++ tags.separator::tags.closing)
      have whole : tags.opening ++ tags.separator::before ++ tags.closing ++ (after ++ tags.separator::tags.closing) =
          tags.wrap (before ++ tags.closing ++ after) := by simp [wrap_split]
      rw [whole,delimited.closes,← whole] at here
      simp only [List.length_append,List.length_cons] at here
      omega
  · rintro ⟨opens,closes⟩
    exact ⟨tags.opens_iff opens,tags.closes_iff closes,tags.reads_wrap opens closes⟩

end Tags

end AccessAgent.Semantics
