import CodeFolding.Proofs.FoldedFile
import CodeFolding.Proofs.Token.Extent
/-!
# Which files are activated

Documentation is what the lexer takes for a block comment, and of all documentation the first one
decides whether a file is folded. Main statements: the documentation of a file is made of the
comments that begin with `/**` (`docComments_eq`), and activation is all or nothing
(`activation_gate`): a file has no folds, or those that it has if nothing needs to activate it.
-/
namespace CodeFolding

/-! ## Documentation -/

/-- A block comment that begins with `/**` and is not `/**/`. -/
def Token.IsDocumentation (k : Token) : Prop :=
  k.kind = .blockComment ∧ ['/', '*', '*'] <+: k.text ∧ k.text ≠ ['/', '*', '*', '/']

instance (k : Token) : Decidable k.IsDocumentation := inferInstanceAs (Decidable (_ ∧ _ ∧ _))

variable {lang : Language} {t : Text}

/-- Block comments are known in languages with braces only. -/
theorem Language.eq_braces_of_blockComment {k : Token} (h : k ∈ lang.tokens t)
    (hkind : k.kind = .blockComment) : lang = .braces := by
  obtain ⟨ks, ls, hsplit⟩ := List.append_of_mem h
  have hbegins := beginsWith_of_append hsplit
  rw [hkind] at hbegins
  generalize k.text ++ ls.flatMap Token.text = rest, k.text.length = n at hbegins
  cases hbegins with
  | blockComment _ _ hlength => exact (blockLength?_eq_some_iff.1 hlength).1

theorem Language.isDoc_iff {k : Token} (h : k ∈ lang.tokens t) :
    lang.isDoc k = true ↔ k.IsDocumentation := by
  rw [isDoc, Bool.and_eq_true, Bool.and_eq_true, beq_iff_eq, bne_iff_ne, and_assoc]
  refine and_congr_right fun hkind => ?_
  obtain rfl := eq_braces_of_blockComment h hkind
  simp [comments]

/-- The documentation of a file with its places. -/
def Language.documentation (lang : Language) (t : Text) : List PlacedToken :=
  (lang.placed t).filter fun k => k.IsDocumentation

/-- **The documentation of a file is made of the comments that begin with `/**`.** -/
theorem docComments_eq (lang : Language) (t : Text) :
    (Survey.ofText lang t).docComments = (lang.documentation t).map fun k => k.text := by
  have htokens : (lang.tokens t).filter lang.isDoc =
      (lang.tokens t).filter fun k => k.IsDocumentation := by
    refine List.filter_congr fun k hk => ?_
    rw [Bool.eq_iff_iff, Language.isDoc_iff hk, decide_eq_true_iff]
  rw [Survey.ofText, Language.docComments, htokens, ← Language.map_toToken_placed,
    List.filter_map, List.map_map]
  rfl

theorem isSlice_of_mem_placed {k : PlacedToken} (h : k ∈ lang.placed t) :
    t.IsSlice k.text k.offset (k.offset + Text.size k.text) := by
  obtain ⟨ks, ls, hsplit⟩ := List.append_of_mem h
  have hoffset := (Language.place_of_append hsplit).1
  exact ⟨_, _, Language.split_of_placed hsplit, hoffset.symm, by rw [Text.size_append, hoffset]⟩

/-! ## Activation -/

theorem isSwitchedOn_iff {s : Settings} :
    (Survey.ofText lang t).isSwitchedOn s = true ↔ s.requireActivation = false ∨
      ∃ k, (lang.documentation t).head? = some k ∧ s.activation <:+: k.text := by
  rw [Survey.isSwitchedOn, docComments_eq, List.head?_map, Bool.or_eq_true, Bool.not_eq_true',
    Option.any_map, Option.any_eq_true]
  simp only [Text.holds_iff]

theorem activated_foldText (s : Settings) (path : String) (t : Text) (ext : String) :
    (foldText s path t ext).activated = true ↔ Language.ofExtension ext = .braces ∧
      (Survey.ofText (Language.ofExtension ext) t).isSwitchedOn s = true := by
  simp only [foldText]
  split
  next hlang =>
    split
    next hon => exact ⟨fun _ => ⟨hlang, hon⟩, fun _ => rfl⟩
    next hoff => exact ⟨fun h => (by cases h), fun h => absurd h.2 hoff⟩
  next hlang => exact ⟨fun h => (by cases h), fun h => absurd h.1 hlang⟩

/-- The methods of a file are counted whatever its settings are. -/
theorem methodCount_foldText (s : Settings) (path : String) (t : Text) (ext : String) :
    (foldText s path t ext).methodCount =
      if Language.ofExtension ext = .braces then
        (Survey.ofText (Language.ofExtension ext) t).methods.length
      else 0 := by
  simp only [foldText]
  split
  · split <;> rfl
  · rfl

/-- **Activation is all or nothing, and reads documentation only.** The documentation of a file is
made of its comments that begin with `/**`, as they stand in the text. A file is activated just if
its language has braces and nothing needs to activate it or its first documentation has the phrase.
The number of methods depends on no setting. And the regions of a file are none, if it is not
activated, or else those that it has if nothing needs to activate it. -/
theorem activation_gate (s : Settings) (path : String) (t : Text) (ext : String) :
    let lang := Language.ofExtension ext
    let docs := lang.documentation t
    let f := foldText s path t ext
    (Survey.ofText lang t).docComments = docs.map (fun k => k.text) ∧
      docs.Pairwise (fun j k => j.offset < k.offset) ∧
      (∀ k ∈ docs, t.IsSlice k.text k.offset (k.offset + Text.size k.text)) ∧
      (f.activated = true ↔ lang = .braces ∧ (s.requireActivation = false ∨
        ∃ k, docs.head? = some k ∧ s.activation <:+: k.text)) ∧
      (∀ (s' : Settings) (path' : String), (foldText s' path' t ext).methodCount = f.methodCount) ∧
      (f.activated = false ∧ f.regions = [] ∨ f.activated = true ∧
        f.regions = (foldText { s with requireActivation := false } path t ext).regions) := by
  intro lang docs f
  refine ⟨docComments_eq lang t, (Language.pairwise_offset_placed lang t).filter _, ?_, ?_, ?_, ?_⟩
  · intro k hk
    exact isSlice_of_mem_placed (List.mem_filter.1 hk).1
  · rw [activated_foldText, isSwitchedOn_iff]
  · intro s' path'
    rw [methodCount_foldText, methodCount_foldText]
  · cases hf : f.activated with
    | false =>
      left
      have hoff := (activated_foldText s path t ext).not.1 (Bool.eq_false_iff.1 hf)
      exact ⟨rfl, by rw [regions_foldText, if_neg hoff]⟩
    | true =>
      right
      have hon := (activated_foldText s path t ext).1 hf
      have hfree : (Survey.ofText lang t).isSwitchedOn { s with requireActivation := false } =
          true := rfl
      refine ⟨rfl, ?_⟩
      rw [regions_foldText, regions_foldText, if_pos hon, if_pos ⟨hon.1, hfree⟩]
      rfl

end CodeFolding
