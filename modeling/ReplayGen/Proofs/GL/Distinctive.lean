import ReplayGen.Proofs.Replay.Ordinary
import ReplayGen.Proofs.GL.Lines

set_option autoImplicit false

namespace ReplayGen.GL

open Text

def guardText : String := "if (glretrace::parser.version < 1) \x7b"

def bufferCheckTexts (buffer binding : String) : List String :=
  ["GLint " ++ buffer ++ " = 0;", "glGetIntegerv(" ++ binding ++ ", &" ++ buffer ++ ");",
    "if (!" ++ buffer ++ ") \x7b"]

def arrayCheckTexts : List String :=
  ["GLint __array_buffer = 0;",
    "glGetIntegerv(GL_ARRAY_BUFFER_BINDING, &__array_buffer);",
    "if (!__array_buffer) \x7b"]

def elementCheckTexts : List String :=
  ["GLint __element_array_buffer = 0;",
    "glGetIntegerv(GL_ELEMENT_ARRAY_BUFFER_BINDING, &__element_array_buffer);",
    "if (!__element_array_buffer) \x7b"]

theorem arrayCheckTexts_eq :
    arrayCheckTexts = bufferCheckTexts "__array_buffer" "GL_ARRAY_BUFFER_BINDING" := by
  simp [arrayCheckTexts, bufferCheckTexts]

theorem elementCheckTexts_eq :
    elementCheckTexts =
      bufferCheckTexts "__element_array_buffer" "GL_ELEMENT_ARRAY_BUFFER_BINDING" := by
  simp [elementCheckTexts, bufferCheckTexts]

def lookupTexts : List String :=
  ["GLint program = -1;", "glGetIntegerv(GL_CURRENT_PROGRAM, &program);"]

def giveUpText : String := "if (1) \x7b"

def growWindowTexts : List String :=
  ["bool reshape_window = false;",
    "if (x + width > glretrace::window_width) \x7b",
    "glretrace::window_width = x + width;",
    "if (y + height > glretrace::window_height) \x7b",
    "glretrace::window_height = y + height;",
    "reshape_window = true;",
    "if (reshape_window) \x7b",
    "// XXX: does not always work",
    "glretrace::drawable->resize(glretrace::window_width, glretrace::window_height);",
    "reshape_window = false;"]

def snapshotTexts : List String :=
  ["GLint __new_fb = 0;",
    "glGetIntegerv(GL_FRAMEBUFFER_BINDING_EXT, &__new_fb);",
    "if (__new_fb != glretrace::fb) \x7b",
    "glretrace::snapshot(call.no);",
    "glretrace::fb = __new_fb;"]

def bookkeepingTexts : List String :=
  growWindowTexts ++ (snapshotTexts ++
    ["glretrace::insideGlBeginEnd = false;", "glretrace::unsaved_draws++;",
      "glretrace::insideGlBeginEnd = true;", "glretrace::checkGlError();"])

def guardTexts : List String :=
  guardText :: (arrayCheckTexts ++ elementCheckTexts)

def frontTexts : List String :=
  guardTexts ++ (lookupTexts ++ [giveUpText])

def laterTexts : List String :=
  lookupTexts ++ (giveUpText :: bookkeepingTexts)

def ownTexts : List String :=
  frontTexts ++ bookkeepingTexts

theorem ownTexts_eq : ownTexts = guardTexts ++ laterTexts := by
  simp [ownTexts, frontTexts, laterTexts]

theorem own_of_guard {text : String} (guard : text ∈ guardTexts) : text ∈ ownTexts :=
  List.mem_append_left _ (List.mem_append_left _ guard)

theorem own_of_lookup {text : String} (lookup : text ∈ lookupTexts) : text ∈ ownTexts :=
  List.mem_append_left _ (List.mem_append_right _ (List.mem_append_left _ lookup))

theorem own_giveUpText : giveUpText ∈ ownTexts := by
  simp [ownTexts, frontTexts]

theorem own_of_bookkeeping {text : String} (bookkeeping : text ∈ bookkeepingTexts) :
    text ∈ ownTexts :=
  List.mem_append_right _ bookkeeping

-- No text is in two parts, so counting a text of one part skips all others.
theorem nodup_ownTexts : ownTexts.Nodup := by
  simp [ownTexts, frontTexts, guardTexts, guardText, arrayCheckTexts, elementCheckTexts, lookupTexts,
    giveUpText, bookkeepingTexts, growWindowTexts, snapshotTexts]

theorem distinctive_ownTexts : ∀ text ∈ ownTexts, Distinctive text := by
  simp only [ownTexts, frontTexts, guardTexts, guardText, arrayCheckTexts, elementCheckTexts, lookupTexts,
    giveUpText, bookkeepingTexts, growWindowTexts, snapshotTexts, List.cons_append,
    List.nil_append, List.forall_mem_cons]
  repeat' apply And.intro
  all_goals first
    | exact List.forall_mem_nil _
    | exact distinctive_literal _ _ (by decide) (by decide) (by decide)

theorem distinctive_empty : Distinctive "" := by
  refine ⟨?_, fun called => absurd called.1 (by decide), rfl⟩
  rintro ⟨head, known, shown⟩
  obtain rfl : head = [] := List.prefix_nil.mp shown
  exact absurd known (by decide)

section Parts

variable {function : Function}

theorem within_giveUpLines (function : Function) (depth closing : Nat) :
    Within [] (function.giveUpLines depth ++ [⟨closing, "\x7d"⟩]) := by
  intro line member
  refine .inl (function.ordinary_giveUpTexts line.text ?_)
  rcases List.mem_append.mp member with inside | last
  · exact function.text_mem_giveUpTexts inside
  · simp [List.mem_singleton.mp last, Function.giveUpTexts]

theorem mem_bufferCheckLines {buffer binding : String} {line : Line}
    (member : line ∈ bufferCheckLines function buffer binding) :
    line.text ∈ function.giveUpTexts ∨ line.text ∈ bufferCheckTexts buffer binding := by
  simp only [bufferCheckLines, List.mem_append, List.mem_cons, List.not_mem_nil, or_false,
    or_assoc] at member
  rcases member with rfl | rfl | rfl | inside | rfl
  · exact .inr (by simp [bufferCheckTexts])
  · exact .inr (by simp [bufferCheckTexts])
  · exact .inr (by simp [bufferCheckTexts])
  · exact .inl (function.text_mem_giveUpTexts inside)
  · exact .inl (by simp [Function.giveUpTexts])

theorem mem_guardLines {line : Line} (member : line ∈ guardLines function) :
    line.text ∈ function.giveUpTexts ∨ line.text ∈ guardTexts := by
  unfold guardLines at member
  split at member
  · simp only [List.mem_append, List.mem_singleton, List.mem_ite_nil_right, or_assoc] at member
    rcases member with rfl | ⟨-, inside⟩ | ⟨-, inside⟩ | rfl
    · exact .inr List.mem_cons_self
    · refine (mem_bufferCheckLines inside).imp_right fun known => ?_
      exact List.mem_cons_of_mem _ (List.mem_append_left _ (arrayCheckTexts_eq ▸ known))
    · refine (mem_bufferCheckLines inside).imp_right fun known => ?_
      exact List.mem_cons_of_mem _ (List.mem_append_right _ (elementCheckTexts_eq ▸ known))
    · exact .inl (by simp [Function.giveUpTexts])
  · simp at member

theorem mem_giveUpBlockLines {line : Line} (member : line ∈ function.giveUpBlockLines) :
    line.text ∈ function.giveUpTexts ∨ line.text ∈ [giveUpText] := by
  simp only [Function.giveUpBlockLines, List.mem_append, List.mem_singleton, or_assoc] at member
  rcases member with rfl | inside | rfl
  · exact .inr (by simp [giveUpText])
  · exact .inl (function.text_mem_giveUpTexts inside)
  · exact .inl (by simp [Function.giveUpTexts])

theorem mem_giveUpIfUndecodable {line : Line} (member : line ∈ giveUpIfUndecodable function) :
    line.text ∈ function.giveUpTexts ∨ line.text ∈ [giveUpText] := by
  unfold giveUpIfUndecodable at member
  exact mem_giveUpBlockLines (List.mem_ite_nil_right.mp member).2

theorem mem_growWindowLines {line : Line} (member : line ∈ growWindowLines) :
    line.text = "\x7d" ∨ line.text ∈ bookkeepingTexts := by
  revert line
  simp [growWindowLines, bookkeepingTexts, growWindowTexts]

theorem mem_snapshotLines {line : Line} (member : line ∈ snapshotLines) :
    line.text = "\x7d" ∨ line.text ∈ bookkeepingTexts := by
  revert line
  simp [snapshotLines, bookkeepingTexts, snapshotTexts]

theorem mem_beforeCallLines {line : Line} (member : line ∈ beforeCallLines function) :
    line.text = "\x7d" ∨ line.text ∈ bookkeepingTexts := by
  simp only [beforeCallLines, List.mem_append, List.mem_ite_nil_right, List.mem_singleton] at member
  rcases member with ⟨-, inside⟩ | ⟨-, rfl⟩
  · exact mem_growWindowLines inside
  · exact .inr (by simp [bookkeepingTexts])

theorem mem_afterCallLines {line : Line} (member : line ∈ afterCallLines function) :
    line.text = "\x7d" ∨ line.text ∈ bookkeepingTexts := by
  simp only [afterCallLines, List.mem_append, List.mem_ite_nil_right, List.mem_singleton,
    or_assoc] at member
  rcases member with ⟨-, inside⟩ | ⟨-, rfl⟩ | last
  · exact mem_snapshotLines inside
  · exact .inr (by simp [bookkeepingTexts])
  · split at last <;>
      · obtain rfl := List.mem_singleton.mp last
        exact .inr (by simp [bookkeepingTexts])

theorem forall_mem_wrapperLines {holds : Line → Prop}
    (around : ∀ line : Line, line.text = "\x7d" ∨ line.text ∈ bookkeepingTexts → holds line)
    (call : ∀ line ∈ function.callLines, holds line) : ∀ line ∈ wrapperLines function, holds line := by
  intro line member
  simp only [wrapperLines, List.mem_append, or_assoc] at member
  rcases member with before | inside | after
  · exact around line (mem_beforeCallLines before)
  · exact call line inside
  · exact around line (mem_afterCallLines after)

theorem countP_unitLines {shows : Line → Bool} {other : String → Prop}
    (unshown : ∀ line : Line, other line.text → shows line = false)
    (own : ∀ text ∈ ownTexts, other text) (giveUp : ∀ text ∈ function.giveUpTexts, other text)
    (call : ∀ line ∈ function.callLines, other line.text)
    (heading : other function.headingLine.text) (unread : other "(void)call;") (blank : other "") :
    (unitLines function).countP shows =
      if function.sideEffects then (sectionLines function).countP shows else 0 := by
  have none {lines : List Line} (others : ∀ line ∈ lines, other line.text) :
      lines.countP shows = 0 := by
    rw [List.countP_eq_zero]
    intro line member shown
    simp [unshown line (others line member)] at shown
  have brace : other "\x7d" := giveUp _ (by simp [Function.giveUpTexts])
  have headingLine : [function.headingLine].countP shows = 0 :=
    none (List.forall_mem_singleton.mpr heading)
  have guard : (guardLines function).countP shows = 0 :=
    none fun _ member => (mem_guardLines member).elim (giveUp _) fun known =>
      own _ (own_of_guard known)
  have giveUpBlock : (giveUpIfUndecodable function).countP shows = 0 :=
    none fun _ member => (mem_giveUpIfUndecodable member).elim (giveUp _) fun known =>
      own _ (List.mem_singleton.mp known ▸ own_giveUpText)
  have wrapper : (wrapperLines function).countP shows = 0 :=
    none (forall_mem_wrapperLines (fun _ known => known.elim (· ▸ brace) fun known =>
      own _ (own_of_bookkeeping known)) call)
  have closing : Function.closingLines.countP shows = 0 := by
    refine none ?_
    simp only [Function.closingLines, List.forall_mem_cons]
    exact ⟨brace, blank, by simp⟩
  have body : (afterGuardLines function).countP shows =
      if function.sideEffects then (sectionLines function).countP shows else 0 := by
    unfold afterGuardLines
    split
    · rw [List.countP_append, List.countP_append, giveUpBlock, wrapper]
      rfl
    · exact none (List.forall_mem_singleton.mpr unread)
  rw [unitLines, ← List.singleton_append, List.countP_append, List.countP_append,
    List.countP_append, headingLine, guard, body, closing]
  omega

theorem within_guardLines (function : Function) : Within guardTexts (guardLines function) :=
  fun _ member => (mem_guardLines member).imp_left (function.ordinary_giveUpTexts _)

theorem ordinary_blobLine {argument : Argument} (name : Wordy argument.name) (position : Nat) :
    Ordinary (blobLine argument position).text := by
  simp only [blobLine, String.append_assoc]
  refine name.ordinary (ordinary_opening _ (by decide) ?_)
  exact (hasForeignMark_append _ _).mpr (.inl (hasForeignMark_literal _ (by decide)))

theorem within_passageLines {argument : Argument} (name : Wordy argument.name) (position : Nat) :
    Within lookupTexts (passageLines function argument position) := by
  intro line member
  unfold passageLines at member
  split at member
  · obtain rfl := List.mem_singleton.mp member
    exact .inl (ordinary_blobLine name position)
  · simp only [List.mem_append, List.mem_ite_nil_right] at member
    rcases member with ⟨-, inside⟩ | inside
    · exact .inr (List.mem_map_of_mem inside)
    · exact .inl (argument.ordinary_decodingLines name position line inside)

theorem within_sectionLines (worded : function.Worded) :
    Within lookupTexts (sectionLines function) := by
  intro line member
  obtain ⟨⟨argument, position⟩, listed, inside⟩ := List.mem_flatMap.mp member
  have found : argument ∈ function.arguments := List.fst_mem_of_mem_zipIdx listed
  have name := worded.argumentName argument found
  rcases List.mem_cons.mp inside with rfl | inside
  · exact .inl (Argument.ordinary_declarationLine name (worded.argumentType argument found))
  · exact within_passageLines name position line inside

theorem within_giveUpBlockLines (function : Function) :
    Within [giveUpText] function.giveUpBlockLines :=
  fun _ member => (mem_giveUpBlockLines member).imp_left (function.ordinary_giveUpTexts _)

theorem within_giveUpIfUndecodable (function : Function) :
    Within [giveUpText] (giveUpIfUndecodable function) :=
  fun _ member => (mem_giveUpIfUndecodable member).imp_left (function.ordinary_giveUpTexts _)

theorem within_beforeCallLines (function : Function) :
    Within bookkeepingTexts (beforeCallLines function) := by
  intro line member
  refine (mem_beforeCallLines member).imp_left fun brace => ?_
  rw [brace]
  exact ordinary_brace

theorem within_afterCallLines (function : Function) :
    Within bookkeepingTexts (afterCallLines function) := by
  intro line member
  refine (mem_afterCallLines member).imp_left fun brace => ?_
  rw [brace]
  exact ordinary_brace

theorem within_wrapperLines (worded : function.Worded) :
    Within (function.callTexts ++ bookkeepingTexts) (wrapperLines function) := by
  intro line member
  simp only [wrapperLines, List.mem_append, or_assoc] at member
  rcases member with inside | inside | inside
  · exact (within_beforeCallLines function line inside).imp_right (List.mem_append_right _)
  · exact (function.mem_callLines worded line inside).imp_right (List.mem_append_left _)
  · exact (within_afterCallLines function line inside).imp_right (List.mem_append_right _)

theorem within_closingLines : Within [""] Function.closingLines := by
  simp [Within, Function.closingLines, ordinary_brace]

theorem count_closingLines {text : String} (own : text ∈ ownTexts) :
    (Function.closingLines.map Line.text).count text = 0 := by
  apply within_closingLines.count_eq_zero (distinctive_ownTexts text own)
  rw [List.mem_singleton]
  rintro rfl
  exact absurd own (by
    simp [ownTexts, frontTexts, guardTexts, guardText, arrayCheckTexts, elementCheckTexts,
      lookupTexts, giveUpText, bookkeepingTexts, growWindowTexts, snapshotTexts])

def textsAfterGuard (function : Function) : List String :=
  if function.sideEffects then
    lookupTexts ++ (giveUpText :: (function.callTexts ++ bookkeepingTexts))
  else ["(void)call;"]

theorem within_afterGuardLines (worded : function.Worded) :
    Within (textsAfterGuard function) (afterGuardLines function) := by
  unfold textsAfterGuard afterGuardLines
  split
  · simpa using ((within_sectionLines worded).append
      (within_giveUpIfUndecodable function)).append (within_wrapperLines worded)
  · simp [Within]

theorem within_headingLine (worded : function.Worded) : Within [] [function.headingLine] := by
  simpa [Within] using function.ordinary_headingLine worded

theorem within_unitLines (worded : function.Worded) :
    Within (guardTexts ++ (textsAfterGuard function ++ [""])) (unitLines function) := by
  simpa [unitLines] using (within_headingLine worded).append
    ((within_guardLines function).append
      ((within_afterGuardLines worded).append within_closingLines))

theorem known_textsAfterGuard (worded : function.Worded) :
    ∀ text ∈ textsAfterGuard function, CallLike text ∨ text ∈ laterTexts := by
  intro text member
  unfold textsAfterGuard at member
  split at member
  · simp only [List.mem_append, List.mem_cons] at member
    rcases member with lookup | rfl | called | bookkeeping
    · exact .inr (by simp [laterTexts, lookup])
    · exact .inr (by simp [laterTexts])
    · exact .inl (function.callLike_callTexts worded text called)
    · exact .inr (by simp [laterTexts, bookkeeping])
  · obtain rfl := List.mem_singleton.mp member
    exact .inl ⟨by decide, noForeignMark_literal _ (by decide)⟩

theorem occurrences_unitLines (worded : function.Worded) {text : String}
    (own : text ∈ ownTexts) :
    occurrences text ((unitLines function).map Line.render) =
      ((unitLines function).map Line.text).count text := by
  refine (within_unitLines worded).occurrences_eq (distinctive_ownTexts text own) ?_
  -- All that the lines may say besides what is ordinary is call-like, or distinctive too.
  intro other member
  simp only [List.mem_append, List.mem_singleton] at member
  rcases member with guard | rest | rfl
  · exact .inr (distinctive_ownTexts other (own_of_guard guard))
  · refine (known_textsAfterGuard worded other rest).imp_right fun later => ?_
    exact distinctive_ownTexts other (by simp [ownTexts_eq, later])
  · exact .inr distinctive_empty

theorem occurrences_parts (worded : function.Worded) (effects : function.sideEffects = true)
    {text : String} (own : text ∈ ownTexts) :
    occurrences text ((unitLines function).map Line.render) =
      ((guardLines function).map Line.text).count text +
        ((sectionLines function).map Line.text).count text +
        ((giveUpIfUndecodable function).map Line.text).count text +
        ((wrapperLines function).map Line.text).count text := by
  have heading := (within_headingLine worded).count_eq_zero (distinctive_ownTexts text own)
    (by simp)
  rw [occurrences_unitLines worded own, unitLines, afterGuardLines, if_pos effects,
    ← List.singleton_append]
  simp only [List.map_append, List.count_append, heading, count_closingLines own]
  omega

end Parts

end ReplayGen.GL
