import Mathlib.Data.List.TakeWhile
import ScopedBinding.Proofs.Configuration
import ScopedBinding.Proofs.Encoding

/-!
# The words for a policy

The policy is read from the environment variable by a grammar: one of five words, in letters of either
case, with white space around it (`ReleasePolicy.Names`). The bytes must be the encoding of such a text.
Bytes that are not the encoding of any text show a replacement character, which no word has and which is
not white space, so they never name a policy, and the warning about them shows what was read
(`setting_read_by_grammar`).
-/

set_option autoImplicit false

namespace ScopedBinding

namespace Text

/-- A text of nothing but white space. -/
def Blank (s : String) : Prop :=
  ∀ c ∈ s.toList, isBlank c = true

instance (s : String) : Decidable (Blank s) :=
  List.decidableBAll (isBlank · = true) s.toList

/-- A text is the word with letters of either case, and with white space around it. -/
def Reads (s word : String) : Prop :=
  ∃ before k after, s = before ++ k ++ after ∧ Blank before ∧ Blank after ∧ lowerAscii k = word

section Trim

variable {before cs after : List Char} {c : Char}

/-- No character from the capital to the small letters is white space. -/
theorem isBlank_eq_false (h : 65 ≤ c.toNat ∧ c.toNat ≤ 122) : isBlank c = false := by
  unfold isBlank blanks
  rw [List.contains_eq_mem, decide_eq_false_iff_not]
  simp only [List.mem_cons, List.not_mem_nil, or_false]
  omega

/-- A letter is not white space in either case, and every other character stays as it is. -/
theorem isBlank_toLower (c : Char) : isBlank c.toLower = isBlank c := by
  by_cases hupper : 65 ≤ c.toNat ∧ c.toNat ≤ 90
  · have hval : c.val ≥ 'A'.val ∧ c.val ≤ 'Z'.val := by
      simpa [UInt32.le_iff_toNat_le] using hupper
    have hlower : c.toLower.toNat = c.toNat + 32 := by
      unfold Char.toLower
      rw [dif_pos hval]
      have hsum : (c.val + ('a'.val - 'A'.val)).toNat = (c.val.toNat + 32) % 2 ^ 32 :=
        UInt32.toNat_add _ _
      have hnat : c.val.toNat = c.toNat := rfl
      have hbound : (c.val + ('a'.val - 'A'.val)).toNat = c.toNat + 32 := by omega
      exact hbound
    rw [isBlank_eq_false (by omega), isBlank_eq_false (by omega)]
  · have hval : ¬ (c.val ≥ 'A'.val ∧ c.val ≤ 'Z'.val) := by
      simpa [UInt32.le_iff_toNat_le] using hupper
    unfold Char.toLower
    rw [dif_neg hval]

/-- Blanks around a text make no difference to what is left of it. -/
theorem trimChars_pad (hbefore : ∀ c ∈ before, isBlank c = true)
    (hafter : ∀ c ∈ after, isBlank c = true) :
    trimChars (before ++ cs ++ after) = trimChars cs := by
  have hreverse : ∀ c ∈ after.reverse, isBlank c = true := fun c hc => hafter c (List.mem_reverse.1 hc)
  unfold trimChars
  rw [List.append_assoc, List.dropWhile_append_of_pos hbefore, List.dropWhile_append]
  split
  · next hempty =>
    rw [List.isEmpty_iff] at hempty
    rw [hempty, List.dropWhile_eq_nil_iff.2 hafter]
  · rw [List.reverse_append, List.dropWhile_append_of_pos hreverse]

/-- A text is what is left of it between two pieces of white space. -/
theorem trimChars_split (cs : List Char) : ∃ before after, cs = before ++ trimChars cs ++ after ∧
    (∀ c ∈ before, isBlank c = true) ∧ ∀ c ∈ after, isBlank c = true := by
  let rest := cs.dropWhile isBlank
  refine ⟨cs.takeWhile isBlank, (rest.reverse.takeWhile isBlank).reverse, ?_, ?_, ?_⟩
  · have hrest : trimChars cs ++ (rest.reverse.takeWhile isBlank).reverse = rest := by
      unfold trimChars
      rw [← List.reverse_append, List.takeWhile_append_dropWhile, List.reverse_reverse]
    rw [List.append_assoc, hrest, List.takeWhile_append_dropWhile]
  · exact fun c hc => List.mem_takeWhile_imp hc
  · exact fun c hc => List.mem_takeWhile_imp (List.mem_reverse.1 hc)

/-- A text without blanks is left as it is. -/
theorem trimChars_eq_self (h : ∀ c ∈ cs, isBlank c = false) : trimChars cs = cs := by
  have hdrop : ∀ l : List Char, (∀ c ∈ l, isBlank c = false) → l.dropWhile isBlank = l := by
    intro l hl
    cases l with
    | nil => rfl
    | cons c l => rw [List.dropWhile_cons_of_neg (by simp [hl c List.mem_cons_self])]
  unfold trimChars
  rw [hdrop cs h, hdrop _ fun c hc => h c (List.mem_reverse.1 hc), List.reverse_reverse]

/-- Lower case has its blanks where the text has them. -/
theorem trimChars_map_toLower (cs : List Char) :
    trimChars (cs.map Char.toLower) = (trimChars cs).map Char.toLower := by
  have hblank : isBlank ∘ Char.toLower = isBlank := funext isBlank_toLower
  unfold trimChars
  rw [List.dropWhile_map, hblank, ← List.map_reverse, List.dropWhile_map, hblank, ← List.map_reverse]

end Trim

section Texts

variable {s before after word : String}

/-- A text is trimmed by its characters. -/
theorem toList_trim (s : String) : (trim s).toList = trimChars s.toList :=
  String.toList_ofList

/-- A text is put into lower case by its characters. -/
theorem toList_lowerAscii (s : String) : (lowerAscii s).toList = s.toList.map Char.toLower :=
  String.toList_ofList

/-- Blanks around a text make no difference when it is trimmed. -/
theorem trim_pad (hbefore : Blank before) (hafter : Blank after) :
    trim (before ++ s ++ after) = trim s := by
  unfold trim
  rw [String.toList_append, String.toList_append, trimChars_pad hbefore hafter]

/-- Trimming and lower case may change places. -/
theorem lowerAscii_trim (s : String) : lowerAscii (trim s) = trim (lowerAscii s) := by
  unfold lowerAscii trim
  rw [String.toList_ofList, String.toList_ofList, trimChars_map_toLower]

/-- Reading a word is finding it between the white space, with small letters. The word has no white space
itself. -/
theorem reads_iff (hword : ∀ c ∈ word.toList, isBlank c = false) :
    Reads s word ↔ lowerAscii (trim s) = word := by
  constructor
  · rintro ⟨before, k, after, rfl, hbefore, hafter, rfl⟩
    have hk : ∀ c ∈ k.toList, isBlank c = false := by
      intro c hc
      rw [← isBlank_toLower]
      exact hword _ (by rw [toList_lowerAscii]; exact List.mem_map_of_mem hc)
    rw [trim_pad hbefore hafter]
    unfold trim
    rw [trimChars_eq_self hk, String.ofList_toList]
  · intro hs
    obtain ⟨before, after, hsplit, hbefore, hafter⟩ := trimChars_split s.toList
    refine ⟨.ofList before, trim s, .ofList after, ?_, ?_, ?_, hs⟩
    · apply String.toList_injective
      rw [String.toList_append, String.toList_append, toList_trim, String.toList_ofList,
        String.toList_ofList]
      exact hsplit
    · unfold Blank
      rwa [String.toList_ofList]
    · unfold Blank
      rwa [String.toList_ofList]

/-- Bytes that are not a text are read with a replacement character, so they are not read as a word. -/
theorem encode_of_reads {bytes : List UInt8} (hword : ∀ c ∈ word.toList, c ≠ replacement)
    (h : Reads (decodeLossy bytes) word) : encode (decodeLossy bytes) = bytes := by
  apply encode_decodeLossy
  obtain ⟨before, k, after, hs, hbefore, hafter, rfl⟩ := h
  rw [hs, String.toList_append, String.toList_append, List.mem_append, List.mem_append]
  rintro ((hc | hc) | hc)
  · exact absurd (hbefore _ hc) (by decide)
  · have hlower : replacement.toLower ∈ (lowerAscii k).toList := by
      rw [toList_lowerAscii]
      exact List.mem_map_of_mem hc
    exact hword _ hlower (by decide)
  · exact absurd (hafter _ hc) (by decide)

end Texts

end Text

namespace ReleasePolicy

/-- The words that name a policy. -/
def words : ReleasePolicy → List String
  | panic => ["panic", "abort", "strict"]
  | log => ["log", "warn"]

/-- A text names a policy by one of its words. -/
def Names (p : ReleasePolicy) (s : String) : Prop :=
  ∃ word ∈ p.words, Text.Reads s word

/-- The words are plain letters. -/
theorem words_plain {p : ReleasePolicy} {word : String} (h : word ∈ p.words) :
    ∀ c ∈ word.toList, Text.isBlank c = false ∧ c ≠ Text.replacement := by
  have hall : ∀ word ∈ p.words,
      (word.toList.all fun c => !Text.isBlank c && c != Text.replacement) = true := by
    cases p <;> decide
  intro c hc
  simpa using List.all_eq_true.1 (hall word h) c hc

/-- A text names a policy if it is one of its words, up to blanks around it and to case. -/
theorem names_iff {p : ReleasePolicy} {s : String} :
    p.Names s ↔ Text.lowerAscii (Text.trim s) ∈ p.words := by
  constructor
  · rintro ⟨word, hword, hreads⟩
    rwa [(Text.reads_iff fun c hc => (words_plain hword c hc).1).1 hreads]
  · intro hword
    exact ⟨_, hword, (Text.reads_iff fun c hc => (words_plain hword c hc).1).2 rfl⟩

/-- The policy that is read from a text is the one that the text names. -/
theorem parse?_eq_some_iff {p : ReleasePolicy} {s : String} : parse? s = some p ↔ p.Names s := by
  rw [names_iff]
  unfold parse?
  generalize Text.lowerAscii (Text.trim s) = word
  cases p <;> simp only [words, List.mem_cons, List.not_mem_nil, or_false] <;> grind

/-- Blanks around a text make no difference to the policy that is read. -/
theorem parse?_pad {before s after : String} (hbefore : Text.Blank before) (hafter : Text.Blank after) :
    parse? (before ++ s ++ after) = parse? s := by
  unfold parse?
  rw [Text.trim_pad hbefore hafter]

/-- Case makes no difference to the policy that is read. -/
theorem parse?_ignores_case {a b : String} (h : Text.lowerAscii a = Text.lowerAscii b) :
    parse? a = parse? b := by
  unfold parse?
  rw [Text.lowerAscii_trim, Text.lowerAscii_trim, h]

/-- What the bytes say is what the text says whose encoding they are, if there is one. -/
theorem parse?_decodeLossy_iff {bytes : List UInt8} {p : ReleasePolicy} :
    parse? (Text.decodeLossy bytes) = some p ↔ ∃ s, bytes = Text.encode s ∧ p.Names s := by
  rw [parse?_eq_some_iff]
  constructor
  · intro h
    obtain ⟨word, hword, hreads⟩ := h
    have hbytes := Text.encode_of_reads (fun c hc => (words_plain hword c hc).2) hreads
    exact ⟨Text.decodeLossy bytes, hbytes.symm, word, hword, hreads⟩
  · rintro ⟨s, rfl, h⟩
    rwa [Text.decodeLossy_encode]

/-- The content of the variable names a policy. -/
def NamedBy (p : ReleasePolicy) (content : Option (List UInt8)) : Prop :=
  ∃ s, content = some (Text.encode s) ∧ p.Names s

/-- A variable that names a policy selects it without a warning. -/
theorem ofVariable_of_namedBy {p : ReleasePolicy} {content : Option (List UInt8)}
    (h : p.NamedBy content) : ofVariable content = (p, []) := by
  obtain ⟨s, rfl, hs⟩ := h
  unfold ofVariable
  dsimp only
  rw [parse?_decodeLossy_iff.2 ⟨s, rfl, hs⟩]

/-- A variable that names none selects the default, with a warning that shows it. -/
theorem ofVariable_of_not_named {bytes : List UInt8}
    (h : ¬ ∃ p : ReleasePolicy, p.NamedBy (some bytes)) :
    ofVariable (some bytes) = (panic, [unrecognised (Text.decodeLossy bytes)]) := by
  have hnone : parse? (Text.decodeLossy bytes) = none := by
    rw [Option.eq_none_iff_forall_ne_some]
    intro p hp
    obtain ⟨s, rfl, hs⟩ := parse?_decodeLossy_iff.1 hp
    exact h ⟨p, s, rfl, hs⟩
  unfold ofVariable
  dsimp only
  rw [hnone]

/-- The variable is not set, or it names a policy, or there is one warning. -/
theorem ofVariable_cases (content : Option (List UInt8)) :
    content = none ∧ ofVariable content = (panic, []) ∨
    (∃ p : ReleasePolicy, p.NamedBy content ∧ ofVariable content = (p, [])) ∨
    ∃ bytes, content = some bytes ∧ (¬ ∃ p : ReleasePolicy, p.NamedBy content) ∧
      ofVariable content = (panic, [unrecognised (Text.decodeLossy bytes)]) := by
  cases content with
  | none => exact .inl ⟨rfl, rfl⟩
  | some bytes =>
    by_cases hnamed : ∃ p : ReleasePolicy, p.NamedBy (some bytes)
    · obtain ⟨p, hp⟩ := hnamed
      exact .inr (.inl ⟨p, hp, ofVariable_of_namedBy hp⟩)
    · exact .inr (.inr ⟨bytes, rfl, hnamed, ofVariable_of_not_named hnamed⟩)

/-- Only a word for the policy `log` selects it. -/
theorem ofVariable_eq_log_iff {content : Option (List UInt8)} :
    (ofVariable content).1 = log ↔ log.NamedBy content := by
  constructor
  · intro hlog
    obtain ⟨-, hpolicy⟩ | ⟨p, hp, hpolicy⟩ | ⟨bytes, -, -, hpolicy⟩ := ofVariable_cases content
    · rw [hpolicy] at hlog
      cases hlog
    · rw [hpolicy] at hlog
      obtain rfl : p = log := hlog
      exact hp
    · rw [hpolicy] at hlog
      cases hlog
  · intro hnamed
    rw [ofVariable_of_namedBy hnamed]

end ReleasePolicy

/-- The environment variable is read by its grammar, whatever bytes it has, and also if it is not set.
Reading it always gives a policy and adds only warnings to the journal:

* the policy is `log` exactly if the bytes are the encoding of a text that is one of the words for it,
  in letters of either case and between white space, and otherwise it is `panic`;
* there is no warning if the variable is not set or names a policy, and otherwise exactly one, which has
  the text that was read.

The texts that are accepted are those that name a policy by one of its words, with that policy. More
white space at the ends and letters of the other case change nothing. -/
theorem setting_read_by_grammar {η ε : Type} (ctx : Context) (w : World η ε) :
    (∃ policy warnings,
      Settings.fromVariable ctx w =
        (.done policy, { w with journal := (warnings.map .logged).reverse ++ w.journal }) ∧
      (policy = .log ↔ ReleasePolicy.log.NamedBy w.settings.content) ∧
      (policy = .panic ↔ ¬ ReleasePolicy.log.NamedBy w.settings.content) ∧
      ((w.settings.content = none ∨ ∃ p : ReleasePolicy, p.NamedBy w.settings.content) ∧
          warnings = [] ∨
        ∃ bytes, w.settings.content = some bytes ∧
          (¬ ∃ p : ReleasePolicy, p.NamedBy w.settings.content) ∧
          warnings = [⟨.warn, "rebind::config", "unrecognised REBIND_RELEASE_FAILURE",
            [("value", Text.decodeLossy bytes), ("fallback", "panic")]⟩])) ∧
    (∀ s p, ReleasePolicy.parse? s = some p ↔ p.Names s) ∧
    (∀ before s after, Text.Blank before → Text.Blank after →
      ReleasePolicy.parse? (before ++ s ++ after) = ReleasePolicy.parse? s) ∧
    ∀ a b, Text.lowerAscii a = Text.lowerAscii b →
      ReleasePolicy.parse? a = ReleasePolicy.parse? b := by
  refine ⟨⟨_, _, Settings.fromVariable_run ctx w, ReleasePolicy.ofVariable_eq_log_iff, ?_, ?_⟩,
    fun s p => ReleasePolicy.parse?_eq_some_iff, fun before s after => ReleasePolicy.parse?_pad,
    fun a b => ReleasePolicy.parse?_ignores_case⟩
  · rw [← ReleasePolicy.ofVariable_eq_log_iff]
    cases (ReleasePolicy.ofVariable w.settings.content).1 <;> simp
  · obtain ⟨hunset, hpolicy⟩ | ⟨p, hp, hpolicy⟩ | ⟨bytes, hset, hnamed, hpolicy⟩ :=
      ReleasePolicy.ofVariable_cases w.settings.content
    · exact .inl ⟨.inl hunset, by rw [hpolicy]⟩
    · exact .inl ⟨.inr ⟨p, hp⟩, by rw [hpolicy]⟩
    · exact .inr ⟨bytes, hset, hnamed, by rw [hpolicy]; rfl⟩

/-- A world in which the environment variable has this content and the policy has not been decided. -/
def World.withVariable (content : List UInt8) : World (Hands Unit) Unit :=
  { World.start ∅ () with settings := ⟨some content, none⟩ }

/-- A word between white space of several bytes is accepted. The same letters before a byte that starts
no character are not, and there is one warning, with the text that was read. -/
theorem padded_word_is_read :
    (Settings.fromVariable ⟨⟨0⟩, false⟩ (.withVariable (Text.encode "\u3000LoG\t"))).1 = .done .log ∧
    (Settings.fromVariable ⟨⟨0⟩, false⟩ (.withVariable [0x6C, 0x6F, 0x67, 0xC0])).1 = .done .panic ∧
    (Settings.fromVariable ⟨⟨0⟩, false⟩ (.withVariable [0x6C, 0x6F, 0x67, 0xC0])).2.journal =
      [.logged ⟨.warn, "rebind::config", "unrecognised REBIND_RELEASE_FAILURE",
        [("value", "log\uFFFD"), ("fallback", "panic")]⟩] ∧
    ReleasePolicy.parse? "\u3000warn\n" = some .log := by
  have hblank : Text.Blank "\u3000" := by decide
  have hnewline : Text.Blank "\n" := by decide
  refine ⟨?_, ?_⟩
  · obtain ⟨⟨policy, warnings, hrun, hlog, -, -⟩, -⟩ :=
      setting_read_by_grammar ⟨⟨0⟩, false⟩ (.withVariable (Text.encode "\u3000LoG\t"))
    have hnamed : ReleasePolicy.log.NamedBy (some (Text.encode "\u3000LoG\t")) :=
      ⟨_, rfl, "log", by decide, "\u3000", "LoG", "\t", by decide, hblank, by decide, by decide⟩
    rw [hrun, hlog.2 hnamed]
  · obtain ⟨⟨policy, warnings, hrun, -, hpanic, hwarnings⟩, -, hpad, -⟩ :=
      setting_read_by_grammar ⟨⟨0⟩, false⟩ (.withVariable [0x6C, 0x6F, 0x67, 0xC0])
    have hread : Text.decodeLossy [0x6C, 0x6F, 0x67, 0xC0] = "log\uFFFD" := by decide
    have hnot : ¬ ∃ p : ReleasePolicy, p.NamedBy (some [0x6C, 0x6F, 0x67, 0xC0]) := by
      rintro ⟨p, s, hs, hnames⟩
      have hparse := ReleasePolicy.parse?_decodeLossy_iff.2 ⟨s, Option.some.inj hs, hnames⟩
      rw [hread] at hparse
      cases hparse.symm.trans (by decide : ReleasePolicy.parse? "log\uFFFD" = none)
    obtain ⟨hnone | hnamed, -⟩ | ⟨bytes, hbytes, -, hwarning⟩ := hwarnings
    · cases hnone
    · exact absurd hnamed hnot
    · cases hbytes
      rw [hread] at hwarning
      rw [hrun, hpanic.2 fun hlog => hnot ⟨_, hlog⟩, hwarning]
      refine ⟨rfl, rfl, ?_⟩
      exact (hpad _ "warn" _ hblank hnewline).trans (by decide)

end ScopedBinding
