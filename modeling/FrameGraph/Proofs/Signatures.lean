import FrameGraph.Pass.Basic
import Mathlib

/-!
# What a Signature Tells

Two passes share a render pass only if their signatures are the same text, so
a signature has to tell attachments apart. The text of one attachment does. Its
type comes before the first colon and its two operations after the last two,
and none of these three has a colon of its own, so the name is whatever is left
in between, colons and bars included.

Several texts in a row are told apart by the bars between them, and there the
name is in the way. A name may begin with the rest of another attachment's
text, followed by a bar, and where it stands after the same type the one text
begins with the other. `signature_tells_attachments` says that nothing else can
make the signatures of different attachments equal. It can happen to every pass
with two attachments or more: `Attachment.join` is a single attachment with the
text of two.

## Main definitions

* `Readable`: A table of names from which the code can be told.
* `Attachment`: What a signature tells of one use.
* `Attachment.Holds`: The name begins with another attachment's text.
* `barred`: Texts with a bar before each.
* `Overruns`: A text begins with one of several others.
* `Pass.attachments`, `Pass.texts`: What the signature of a pass is made from.
* `Pass.MistakenFor`: An attachment of one pass holds one of the other.

## Theorems

* `Readable.codeText_inj`: Every code has a text of its own.
* `Attachment.text_inj`: The text of one attachment can be read back.
* `Attachment.holds_of_text`: What it means that one text begins with another.
* `barred_inj`: Where two rows of texts can be confused.
* `Pass.texts_eq_iff`: Sorted texts tell the attachments.
* `Pass.exists_single`: One attachment can have the signature of several.
* `signature_tells_attachments`: What equal signatures tell.
* `signature_tells_reordered`, `signature_eq_distinct`: Two attachments in
  another order, and one attachment in place of two.
-/

namespace FrameGraph

namespace Gpu

/-- The characters of a decimal number. -/
def ofNumber (c : Char) : Bool := c.isDigit || c = '-'

/-- The names of a table differ from each other and from every number, and none
    has a colon or a bar. -/
structure Readable (names : List (Int32 × String)) : Prop where
  distinct : (names.map Prod.snd).Nodup
  worded : ∀ entry ∈ names, entry.2.toList.all ofNumber = false
  separable : ∀ entry ∈ names, ':' ∉ entry.2.toList ∧ '|' ∉ entry.2.toList

theorem ofNumber_of_mem_toString {number : Int} {c : Char} (h : c ∈ (toString number).toList) :
    ofNumber c = true := by
  have hdigits : ∀ {n : Nat}, c ∈ n.repr.toList → ofNumber c = true := by
    intro n hc
    rw [Nat.toList_repr] at hc
    rw [ofNumber, Nat.isDigit_of_mem_toDigits (by decide) (by decide) hc, Bool.true_or]
  -- A number is digits, with a sign in front of it if it is negative.
  rw [Int.toString_eq_repr, Int.repr_eq_if] at h
  split at h
  · exact hdigits h
  · rw [String.toList_append, List.mem_append] at h
    rcases h with hsign | hrest
    · have hminus : c = '-' := List.mem_singleton.mp hsign
      rw [hminus]
      rfl
    · exact hdigits hrest

theorem codeText_eq_some {names : List (Int32 × String)} {code : Int32} {name : String}
    (h : names.lookup code = some name) : (code, name) ∈ names ∧ codeText names code = name := by
  rcases List.lookup_eq_some_iff.mp h with ⟨front, back, rfl, _⟩
  refine ⟨List.mem_append_right _ List.mem_cons_self, ?_⟩
  rw [codeText, h, Option.getD_some]

theorem codeText_eq_none {names : List (Int32 × String)} {code : Int32}
    (h : names.lookup code = none) : codeText names code = toString code.toInt := by
  rw [codeText, h, Option.getD_none]

namespace Readable

variable {names : List (Int32 × String)}

/-- What a table prints has no separator in it. -/
theorem separable_codeText (h : Readable names) (code : Int32) :
    ':' ∉ (codeText names code).toList ∧ '|' ∉ (codeText names code).toList := by
  cases hlookup : names.lookup code with
  | none =>
      rw [codeText_eq_none hlookup]
      exact ⟨fun hcolon => absurd (ofNumber_of_mem_toString hcolon) (by decide),
        fun hbar => absurd (ofNumber_of_mem_toString hbar) (by decide)⟩
  | some name =>
      rcases codeText_eq_some hlookup with ⟨hmem, hname⟩
      rw [hname]
      exact h.separable _ hmem

/-- A name of the table is never a number. -/
theorem codeText_ne (h : Readable names) {named numbered : Int32} {name : String}
    (hnamed : names.lookup named = some name) (hnumbered : names.lookup numbered = none) :
    codeText names named ≠ codeText names numbered := by
  intro hsame
  rcases codeText_eq_some hnamed with ⟨hmem, hname⟩
  rw [hname, codeText_eq_none hnumbered] at hsame
  have hword := h.worded _ hmem
  rw [hsame, List.all_eq_true.mpr fun c hc => ofNumber_of_mem_toString hc] at hword
  exact Bool.noConfusion hword

/-- Every code has a text of its own. -/
theorem codeText_inj (h : Readable names) {first second : Int32}
    (hsame : codeText names first = codeText names second) : first = second := by
  cases hfirst : names.lookup first with
  | none =>
      cases hsecond : names.lookup second with
      | none =>
          rw [codeText_eq_none hfirst, codeText_eq_none hsecond, Int.toString_eq_repr,
            Int.toString_eq_repr] at hsame
          exact Int32.toInt_inj.mp (Int.repr_inj.mp hsame)
      | some name => exact absurd hsame.symm (h.codeText_ne hsecond hfirst)
  | some name =>
      cases hsecond : names.lookup second with
      | none => exact absurd hsame (h.codeText_ne hfirst hsecond)
      | some other =>
          rcases codeText_eq_some hfirst with ⟨hmem, hname⟩
          rcases codeText_eq_some hsecond with ⟨hother, hotherName⟩
          have hnames : name = other := by rw [← hname, hsame, hotherName]
          have hpairs := List.inj_on_of_nodup_map h.distinct hmem hother hnames
          exact congrArg Prod.fst hpairs

end Readable

theorem LoadOp.readable : Readable [(load, "LOAD"), (clear, "CLEAR"), (dontCare, "DONT_CARE"),
    (none, "NONE_KHR")] :=
  ⟨by decide, by decide, by decide⟩

theorem StoreOp.readable :
    Readable [(store, "STORE"), (dontCare, "DONT_CARE"), (none, "NONE")] :=
  ⟨by decide, by decide, by decide⟩

end Gpu

open Gpu

namespace ResourceType

/-- No type has a separator in its word. -/
theorem separable_word (type : ResourceType) :
    ':' ∉ type.word.toList ∧ '|' ∉ type.word.toList := by
  cases type <;> decide

theorem word_inj {first second : ResourceType} (h : first.word = second.word) :
    first = second := by
  cases first <;> cases second <;> first | rfl | exact absurd h (by decide)

end ResourceType

/-- Texts are cut in one way at the first separator. -/
theorem cut_first {α : Type} {c : α} {p q r s : List α} (hp : c ∉ p) (hq : c ∉ q)
    (h : p ++ c :: r = q ++ c :: s) : p = q ∧ r = s := by
  induction p generalizing q with
  | nil =>
      cases q with
      | nil => exact ⟨rfl, List.tail_eq_of_cons_eq h⟩
      | cons first rest =>
          rw [List.nil_append, List.cons_append, List.cons.injEq] at h
          exact absurd (h.1 ▸ List.mem_cons_self) hq
  | cons head front ih =>
      cases q with
      | nil =>
          rw [List.nil_append, List.cons_append, List.cons.injEq] at h
          exact absurd (h.1 ▸ List.mem_cons_self) hp
      | cons first rest =>
          rw [List.cons_append, List.cons_append, List.cons.injEq] at h
          rcases ih (List.not_mem_of_not_mem_cons hp) (List.not_mem_of_not_mem_cons hq) h.2 with
            ⟨hfront, hback⟩
          exact ⟨by rw [h.1, hfront], hback⟩

/-- And in one way at the last. -/
theorem cut_last {α : Type} {c : α} {p q r s : List α} (hr : c ∉ r) (hs : c ∉ s)
    (h : p ++ c :: r = q ++ c :: s) : p = q ∧ r = s := by
  have hreverse := congrArg List.reverse h
  simp only [List.reverse_append, List.reverse_cons, List.append_assoc,
    List.singleton_append] at hreverse
  rcases cut_first (mt List.mem_reverse.mp hr) (mt List.mem_reverse.mp hs) hreverse with
    ⟨hback, hfront⟩
  exact ⟨List.reverse_inj.mp hfront, List.reverse_inj.mp hback⟩

/-- What a signature tells of one use. -/
structure Attachment where
  type : ResourceType
  resource : String
  loadOp : LoadOp
  storeOp : StoreOp
  deriving DecidableEq, Repr

namespace Attachment

/-- Type, name, load and store operation, separated by colons. -/
def text (attachment : Attachment) : String :=
  String.intercalate ":"
    [attachment.type.word, attachment.resource, LoadOp.text attachment.loadOp,
      StoreOp.text attachment.storeOp]

/-- What follows the name in the text. -/
def operations (attachment : Attachment) : List Char :=
  ':' :: ((LoadOp.text attachment.loadOp).toList
    ++ ':' :: (StoreOp.text attachment.storeOp).toList)

theorem toList_text (attachment : Attachment) :
    attachment.text.toList
      = attachment.type.word.toList
        ++ ':' :: (attachment.resource.toList ++ attachment.operations) := by
  simp only [text, String.toList_intercalate, List.map_cons, List.map_nil,
    List.intercalate_cons_cons, List.intercalate_singleton, operations, List.append_assoc]
  rfl

/-- No bar is in the operations. -/
theorem bar_notMem_operations (attachment : Attachment) : '|' ∉ attachment.operations := by
  have hload := (LoadOp.readable.separable_codeText attachment.loadOp).2
  have hstore := (StoreOp.readable.separable_codeText attachment.storeOp).2
  rw [operations, List.mem_cons, List.mem_append, List.mem_cons]
  rintro (hcolon | hin | hcolon | hin)
  · exact absurd hcolon (by decide)
  · exact hload hin
  · exact absurd hcolon (by decide)
  · exact hstore hin

/-- The text of one attachment can be read back, whatever its name. -/
theorem text_inj {first second : Attachment} (h : first.text = second.text) :
    first = second := by
  have hlists := congrArg String.toList h
  rw [toList_text, toList_text] at hlists
  rcases cut_first first.type.separable_word.1 second.type.separable_word.1 hlists with
    ⟨htype, hrest⟩
  have hloads := LoadOp.readable.separable_codeText
  have hstores := StoreOp.readable.separable_codeText
  rw [operations, operations] at hrest
  -- Both names may have colons, so the operations are cut off from the end.
  have hstored : (first.resource.toList ++ ':' :: (LoadOp.text first.loadOp).toList)
        ++ ':' :: (StoreOp.text first.storeOp).toList
      = (second.resource.toList ++ ':' :: (LoadOp.text second.loadOp).toList)
        ++ ':' :: (StoreOp.text second.storeOp).toList := by
    simpa only [List.append_assoc, List.cons_append] using hrest
  rcases cut_last (hstores first.storeOp).1 (hstores second.storeOp).1 hstored with
    ⟨hloaded, hstore⟩
  rcases cut_last (hloads first.loadOp).1 (hloads second.loadOp).1 hloaded with
    ⟨hname, hload⟩
  rw [String.toList_inj] at htype hname hload hstore
  cases first
  cases second
  simp only [mk.injEq]
  exact ⟨ResourceType.word_inj htype, hname, LoadOp.readable.codeText_inj hload,
    StoreOp.readable.codeText_inj hstore⟩

/-- The types agree, and the name begins with the rest of the other text and a
    bar. -/
def Holds (whole part : Attachment) : Prop :=
  whole.type = part.type
    ∧ ∃ rest, whole.resource.toList = part.resource.toList ++ part.operations ++ '|' :: rest

/-- An attachment whose text begins with that of another and a bar holds the
    other. -/
theorem holds_of_text {whole part : Attachment} {rest : List Char}
    (h : whole.text.toList = part.text.toList ++ '|' :: rest) : whole.Holds part := by
  rw [toList_text, toList_text, List.append_assoc, List.cons_append] at h
  rcases cut_first whole.type.separable_word.1 part.type.separable_word.1 h with ⟨htype, hrest⟩
  refine ⟨ResourceType.word_inj (String.toList_inj.mp htype), ?_⟩
  rcases List.append_eq_append_iff.mp hrest with ⟨between, hpart, hbetween⟩ | ⟨between, hname, hbar⟩
  · -- The bar would be among the operations of the one that holds.
    refine absurd ?_ whole.bar_notMem_operations
    rw [hbetween]
    exact List.mem_append_right _ List.mem_cons_self
  · cases between with
    | nil =>
        refine absurd ?_ whole.bar_notMem_operations
        rw [List.nil_append] at hbar
        rw [← hbar]
        exact List.mem_cons_self
    | cons bar front =>
        rw [List.cons_append, List.cons.injEq] at hbar
        exact ⟨front, by rw [hname, hbar.1]⟩

/-- One attachment that has the text of two. -/
def join (first second : Attachment) : Attachment where
  type := first.type
  resource :=
    String.ofList (first.resource.toList ++ first.operations
      ++ '|' :: (second.type.word.toList ++ ':' :: second.resource.toList))
  loadOp := second.loadOp
  storeOp := second.storeOp

theorem text_join (first second : Attachment) :
    (first.join second).text = first.text ++ "|" ++ second.text := by
  rw [← String.toList_inj, String.toList_append, String.toList_append, toList_text, toList_text,
    toList_text, join, String.toList_ofList]
  simp only [List.append_assoc, List.cons_append]
  rfl

end Attachment

/-- Texts with a bar before each. -/
def barred (texts : List String) : List Char := texts.flatMap fun text => '|' :: text.toList

theorem bar_toList_intercalate {texts : List String} (h : texts ≠ []) :
    '|' :: (String.intercalate "|" texts).toList = barred texts := by
  rw [String.toList_intercalate]
  induction texts with
  | nil => exact absurd rfl h
  | cons first rest ih =>
      cases rest with
      | nil => simp [barred]
      | cons second others =>
          have hrest := ih (List.cons_ne_nil _ _)
          rw [List.map_cons] at hrest
          rw [List.map_cons, List.map_cons, List.intercalate_cons_cons, barred, List.flatMap_cons,
            ← barred, ← hrest, List.append_assoc, List.cons_append]
          rfl

theorem barred_cons (text : String) (texts : List String) :
    barred (text :: texts) = '|' :: (text.toList ++ barred texts) :=
  List.flatMap_cons

/-- Some text begins with one of several others and a bar. -/
def Overruns (texts others : List String) : Prop :=
  2 ≤ others.length
    ∧ ∃ whole ∈ texts, ∃ part ∈ others, ∃ rest, whole.toList = part.toList ++ '|' :: rest

theorem Overruns.cons {texts others : List String} (h : Overruns texts others)
    (text other : String) : Overruns (text :: texts) (other :: others) := by
  rcases h with ⟨hlength, whole, hwhole, part, hpart, hrest⟩
  exact ⟨Nat.le_succ_of_le hlength, whole, List.mem_cons_of_mem _ hwhole, part,
    List.mem_cons_of_mem _ hpart, hrest⟩

/-- What stands after the shorter of two first texts begins with a bar. -/
theorem overruns_of_append {text other : String} {texts others : List String}
    {between : List Char} (hlonger : text.toList = other.toList ++ between)
    (hrest : barred others = between ++ barred texts) (hne : text ≠ other) :
    Overruns (text :: texts) (other :: others) := by
  cases between with
  | nil =>
      rw [List.append_nil, String.toList_inj] at hlonger
      exact absurd hlonger hne
  | cons bar front =>
      cases others with
      | nil => exact absurd hrest.symm (List.cons_ne_nil _ _)
      | cons second others =>
          rw [barred_cons, List.cons_append, List.cons.injEq] at hrest
          refine ⟨Nat.le_add_left 2 others.length, text, List.mem_cons_self, other,
            List.mem_cons_self, front, ?_⟩
          rw [hlonger, hrest.1]

/-- Rows of texts with the same characters are the same, unless a text of one
    overruns the other. -/
theorem barred_inj {texts others : List String} (h : barred texts = barred others) :
    texts = others ∨ Overruns texts others ∨ Overruns others texts := by
  induction texts generalizing others with
  | nil =>
      cases others with
      | nil => exact Or.inl rfl
      | cons other others => exact absurd h.symm (List.cons_ne_nil _ _)
  | cons text texts ih =>
      cases others with
      | nil => exact absurd h (List.cons_ne_nil _ _)
      | cons other others =>
          -- The rows go in step as long as their texts agree. Where two texts
          -- differ, the longer one goes over the end of the other.
          rw [barred_cons, barred_cons, List.cons.injEq] at h
          by_cases hfirst : text = other
          · rw [hfirst, List.append_cancel_left_eq] at h
            rcases ih h.2 with hrest | hrest | hrest
            · exact Or.inl (by rw [hfirst, hrest])
            · exact Or.inr (Or.inl (hrest.cons text other))
            · exact Or.inr (Or.inr (hrest.cons other text))
          · rcases List.append_eq_append_iff.mp h.2 with ⟨_, hlonger, hrest⟩ | ⟨_, hlonger, hrest⟩
            · exact Or.inr (Or.inr (overruns_of_append hlonger hrest (Ne.symm hfirst)))
            · exact Or.inr (Or.inl (overruns_of_append hlonger hrest hfirst))

namespace Text

/-- Sorting tells which texts there are and how often, and nothing else. -/
theorem ascending_eq_iff {texts others : List String} :
    ascending texts = ascending others ↔ texts.Perm others := by
  have hperm : ∀ among, (ascending among).Perm among := fun among => List.mergeSort_perm among _
  constructor
  · intro h
    exact (hperm texts).symm.trans (h ▸ hperm others)
  · intro h
    have hsorted : ∀ among : List String, (ascending among).Pairwise (· ≤ ·) := by
      intro among
      refine (List.pairwise_mergeSort ?_ ?_ among).imp ?_
      · simp only [Bool.not_eq_true', decide_eq_false_iff_not, String.not_lt]
        exact fun _ _ _ => String.le_trans
      · simp only [Bool.or_eq_true, Bool.not_eq_true', decide_eq_false_iff_not, String.not_lt]
        exact String.le_total
      · simp only [Bool.not_eq_true', decide_eq_false_iff_not, String.not_lt]
        exact fun hle => hle
    -- Sorted rows of the same texts are equal, as the order is total.
    exact List.Perm.eq_of_pairwise (fun _ _ _ _ => String.le_antisymm) (hsorted texts)
      (hsorted others) ((hperm texts).trans (h.trans (hperm others).symm))

end Text

/-- What a use as an attachment tells. -/
def Usage.toAttachment (usage : Usage) : Attachment where
  type := usage.type
  resource := usage.resource
  loadOp := usage.loadOp
  storeOp := usage.storeOp

namespace Pass

/-- What the signature of a pass is made from. -/
def attachments (pass : Pass) : List Attachment :=
  (pass.usages.filter (·.isAttachment)).map Usage.toAttachment

/-- The texts of the attachments, in the order in which a signature has
    them. -/
def texts (pass : Pass) : List String :=
  Text.ascending (pass.attachments.map Attachment.text)

theorem perm_texts (pass : Pass) :
    pass.texts.Perm (pass.attachments.map Attachment.text) :=
  List.mergeSort_perm _ _

theorem length_texts (pass : Pass) : pass.texts.length = pass.attachments.length := by
  rw [(perm_texts pass).length_eq, List.length_map]

theorem mem_texts {pass : Pass} {text : String} :
    text ∈ pass.texts ↔ ∃ attachment ∈ pass.attachments, attachment.text = text := by
  rw [(perm_texts pass).mem_iff, List.mem_map]

theorem signature_eq (pass : Pass) : pass.signature = String.intercalate "|" pass.texts := by
  rw [texts, attachments, List.map_map]
  rfl

/-- Passes have the same texts if and only if they have the same attachments. -/
theorem texts_eq_iff {first second : Pass} :
    first.texts = second.texts ↔ first.attachments.Perm second.attachments :=
  Text.ascending_eq_iff.trans
    (List.map_perm_map_iff fun _ _ hsame => Attachment.text_inj hsame)

/-- Neither the order of declaration nor any other use has a part in it. -/
theorem signature_of_perm {first second : Pass}
    (h : first.attachments.Perm second.attachments) : first.signature = second.signature := by
  rw [signature_eq, signature_eq, texts_eq_iff.mpr h]

/-- Only without attachments there is nothing to tell. -/
theorem signature_ne_empty {pass : Pass} (h : pass.texts ≠ []) : pass.signature ≠ "" := by
  intro hempty
  have hbarred := bar_toList_intercalate h
  rw [← signature_eq, hempty] at hbarred
  cases htexts : pass.texts with
  | nil => exact h htexts
  | cons text others =>
      rcases mem_texts.mp (htexts ▸ List.mem_cons_self) with ⟨attachment, _, rfl⟩
      rw [htexts, barred_cons, List.cons.injEq, Attachment.toList_text] at hbarred
      exact absurd hbarred.2 (by simp)

/-- Equal signatures are equal rows of texts, though perhaps not of the same
    texts. -/
theorem barred_texts {first second : Pass} (h : first.signature = second.signature) :
    barred first.texts = barred second.texts := by
  by_cases hfirst : first.texts = []
  · by_cases hsecond : second.texts = []
    · rw [hfirst, hsecond]
    · refine absurd ?_ (signature_ne_empty hsecond)
      rw [← h, signature_eq, hfirst]
      rfl
  · by_cases hsecond : second.texts = []
    · refine absurd ?_ (signature_ne_empty hfirst)
      rw [h, signature_eq, hsecond]
      rfl
    · rw [← bar_toList_intercalate hfirst, ← bar_toList_intercalate hsecond, ← signature_eq,
        ← signature_eq, h]

/-- An attachment of one pass holds one of several of the other. -/
def MistakenFor (first second : Pass) : Prop :=
  2 ≤ second.attachments.length
    ∧ ∃ whole ∈ first.attachments, ∃ part ∈ second.attachments, whole.Holds part

theorem mistakenFor_of_overruns {first second : Pass}
    (h : Overruns first.texts second.texts) : first.MistakenFor second := by
  rcases h with ⟨hlength, text, htext, other, hother, rest, hrest⟩
  rcases mem_texts.mp htext with ⟨whole, hwhole, rfl⟩
  rcases mem_texts.mp hother with ⟨part, hpart, rfl⟩
  rw [length_texts] at hlength
  exact ⟨hlength, whole, hwhole, part, hpart, Attachment.holds_of_text hrest⟩

/-- Attachments in a row have the text of one. -/
theorem exists_text_intercalate {texts : List String} (hne : texts ≠ [])
    (h : ∀ text ∈ texts, ∃ attachment : Attachment, attachment.text = text) :
    ∃ single : Attachment, single.text = String.intercalate "|" texts := by
  induction texts with
  | nil => exact absurd rfl hne
  | cons text texts ih =>
      rw [List.forall_mem_cons] at h
      rcases h.1 with ⟨first, rfl⟩
      cases texts with
      | nil => exact ⟨first, by rw [String.intercalate_singleton]⟩
      | cons second others =>
          rcases ih (List.cons_ne_nil _ _) h.2 with ⟨rest, hrest⟩
          exact ⟨first.join rest, by
            rw [Attachment.text_join, hrest, String.intercalate_cons_cons]⟩

theorem signature_of_single {pass : Pass} {single : Attachment}
    (h : pass.attachments = [single]) : pass.signature = single.text := by
  rw [signature_eq, texts, h, List.map_singleton, Text.ascending, List.mergeSort_singleton,
    String.intercalate_singleton]

/-- For a pass with two attachments or more there is one with a single
    attachment and the same signature. -/
theorem exists_single {pass : Pass} (h : 2 ≤ pass.attachments.length) :
    ∃ other : Pass, other.attachments.length = 1 ∧ other.signature = pass.signature
      ∧ other.MistakenFor pass := by
  cases htexts : pass.texts with
  | nil => exact absurd (length_texts pass) (by rw [htexts, List.length_nil]; omega)
  | cons text rest =>
      cases rest with
      | nil => exact absurd (length_texts pass) (by rw [htexts, List.length_singleton]; omega)
      | cons second others =>
          rcases exists_text_intercalate (List.cons_ne_nil text (second :: others))
            fun _ hmem => (mem_texts.mp (htexts ▸ hmem)).imp fun _ hfound => hfound.2 with
            ⟨single, hsingle⟩
          rcases mem_texts.mp (htexts ▸ List.mem_cons_self) with ⟨part, hpart, rfl⟩
          have htext : single.text.toList
              = part.text.toList ++ '|' :: (String.intercalate "|" (second :: others)).toList := by
            rw [hsingle, String.intercalate_cons_cons, String.toList_append,
              String.toList_append, List.append_assoc]
            rfl
          have hholds := Attachment.holds_of_text htext
          -- The whole signature is the text of one attachment, and it begins with
          -- the text of the first.
          let other : Pass := ⟨pass.index, pass.name, pass.stage,
            [Usage.attachment single.type single.resource single.loadOp single.storeOp]⟩
          have hother : other.attachments = [single] := rfl
          refine ⟨other, by rw [hother]; rfl, ?_, h, single, ?_, part, hpart, hholds⟩
          · rw [signature_of_single hother, hsingle, signature_eq, htexts]
          · rw [hother]
            exact List.mem_singleton_self single

end Pass

/-- Passes with the same attachments have the same signature, whatever else
    they use and in whatever order. Passes with the same signature have the same
    attachments, unless an attachment of one holds one of several of the other.
    For every pass with two attachments or more there is such a pass, with a
    single attachment. -/
theorem signature_tells_attachments (first second : Pass) :
    (first.attachments.Perm second.attachments → first.signature = second.signature)
      ∧ (first.signature = second.signature →
        first.attachments.Perm second.attachments
          ∨ first.MistakenFor second ∨ second.MistakenFor first)
      ∧ (2 ≤ first.attachments.length →
        ∃ other : Pass, other.attachments.length = 1 ∧ other.signature = first.signature
          ∧ other.MistakenFor first) := by
  refine ⟨Pass.signature_of_perm, fun hsame => ?_, Pass.exists_single⟩
  rcases barred_inj (Pass.barred_texts hsame) with htexts | hover | hover
  · exact Or.inl (Pass.texts_eq_iff.mp htexts)
  · exact Or.inr (Or.inl (Pass.mistakenFor_of_overruns hover))
  · exact Or.inr (Or.inr (Pass.mistakenFor_of_overruns hover))

/-- Two attachments, of which the first is cleared. -/
def gbuffer : Pass where
  index := 0
  name := "gbuffer"
  stage := .graphics
  usages := [
    Usage.attachment .colorAttachment "a" LoadOp.clear StoreOp.store,
    Usage.attachment .colorAttachment "b" LoadOp.clear StoreOp.store]

/-- One attachment, with the text of both. -/
def decals : Pass where
  index := 1
  name := "decals"
  stage := .graphics
  usages := [
    Usage.attachment .colorAttachment "a:CLEAR:STORE|color:b" LoadOp.clear StoreOp.store]

/-- The same attachments in another order, and one more use. -/
def reordered : Pass :=
  { gbuffer with usages := Usage.plain .read .sampledImage "shadow" :: gbuffer.usages.reverse }

theorem signature_tells_reordered :
    gbuffer.attachments.Perm reordered.attachments ∧ gbuffer.signature = reordered.signature := by
  have hperm : gbuffer.attachments.Perm reordered.attachments := List.Perm.swap _ _ _
  exact ⟨hperm, (signature_tells_attachments gbuffer reordered).1 hperm⟩

/-- Two passes with equal signatures of which one has two attachments and the
    other has one. -/
theorem signature_eq_distinct :
    ¬ ∀ first second : Pass,
        first.signature = second.signature ↔ first.attachments.Perm second.attachments := by
  intro hall
  have hsame : gbuffer.signature = decals.signature := by
    -- The texts are in order as they are declared, so sorting is not run.
    rw [Pass.signature, Pass.signature, Text.ascending, Text.ascending,
      List.mergeSort_of_pairwise (by decide), List.mergeSort_of_pairwise (by decide)]
    decide
  exact absurd ((hall gbuffer decals).mp hsame).length_eq (by decide)

end FrameGraph
