import Switchyard.Proofs.Stepping

/-!
# An Expression in Its Frame

A constraint is compiled in a frame, with `^(?:` in front of its text and `)$` behind. This module
says what the framed text gives in terms of what the text gives by itself.

In the frame a group is open around the expression throughout. The reader does not see it unless the
text closes a group that it did not open (`step_under`). With what is known of a step in front of a
tail, this leaves four ways for a run (`Continues`): it comes to the tail in the state in which it
ends by itself; or a comment takes up the tail; or the text closes the group of the frame; or it is
at fault, and however the run goes on in the tail, it never closes that group.

## Main results

* `runAll_continues`: a run by itself, and in a frame.
* `readPiece_anchored`: what an expression becomes in its frame.
* `unopenedGroup_of_readPiece_anchored`: the only way out of the frame.
-/

namespace Switchyard.Regex

variable (st : State)

/-! ### Groups around an expression -/

/-- The state inside more open groups. -/
def State.under (st : State) (outer : List Frame) : State :=
  { st with frames := st.frames ++ outer }

variable (outer : List Frame)

theorem bind_eq_map {α β γ : Type} (x : Except Fault α) {K : α → Except Fault β}
    {K' : α → Except Fault γ} {g : β → γ} (h : ∀ a, K' a = (K a).map g) :
    x >>= K' = (x >>= K).map g := by
  cases x with
  | ok a => exact h a
  | error e => rfl

theorem openNamed_under (cs : List Char) :
    (st.under outer).openNamed cs = (st.openNamed cs).map (·.under outer) :=
  bind_eq_map _ fun _ => rfl

theorem openFlagged_under (cs : List Char) :
    (st.under outer).openFlagged cs = (st.openFlagged cs).map (·.under outer) := by
  refine bind_eq_map _ fun ⟨flags, opens, cs⟩ => ?_
  cases opens <;> rfl

theorem openGroup_under (cs : List Char) :
    (st.under outer).openGroup cs = (st.openGroup cs).map (·.under outer) := by
  simp only [State.openGroup, show (st.under outer).flags = st.flags from rfl]
  split
  case h_5 => exact openNamed_under st outer _
  case h_6 => exact openNamed_under st outer _
  case h_7 => exact openFlagged_under st outer _
  all_goals rfl

theorem closeGroup_under (h : st.frames ≠ []) (cs : List Char) :
    (st.under outer).closeGroup cs = (st.closeGroup cs).map (·.under outer) := by
  obtain ⟨fr, frames, hframes⟩ := List.exists_cons_of_ne_nil h
  simp only [State.closeGroup, State.under, hframes, List.cons_append]
  rfl

theorem repeatLast_under (least : Nat) (most : Option Nat) (cs : List Char) :
    (st.under outer).repeatLast least most cs =
      (st.repeatLast least most cs).map (·.under outer) := by
  simp only [State.repeatLast, show (st.under outer).pieces = st.pieces from rfl]
  split
  · rfl
  · split <;> rfl

theorem countedTo_under (least : Option Nat) (b : Option Nat × List Char) :
    (st.under outer).countedTo least b = (st.countedTo least b).map (·.under outer) := by
  unfold State.countedTo
  split
  · split
    · exact repeatLast_under st outer _ _ _
    · rfl
  · rfl

theorem countedFrom_under (b : Option Nat × List Char) :
    (st.under outer).countedFrom b = (st.countedFrom b).map (·.under outer) := by
  obtain ⟨least, cs⟩ := b
  simp only [State.countedFrom, show (st.under outer).flags = st.flags from rfl]
  split
  · split
    · cases least with
      | none => rfl
      | some n => exact repeatLast_under st outer _ _ _
    · exact bind_eq_map _ (countedTo_under st outer least)
  · cases least with
    | none => rfl
    | some n => exact repeatLast_under st outer _ _ _
  · rfl

theorem readCounted_under (cs : List Char) :
    (st.under outer).readCounted cs = (st.readCounted cs).map (·.under outer) := by
  simp only [State.readCounted, show (st.under outer).pieces = st.pieces from rfl]
  split
  · exact bind_eq_map _ (countedFrom_under st outer)
  · rfl

/-- A step does not see the groups around the expression unless it closes one of them. -/
theorem step_under {c : Char} (h : c = ')' → st.frames ≠ []) (cs : List Char) :
    (st.under outer).step c cs = (st.step c cs).map (·.under outer) := by
  unfold State.step
  split
  case h_1 => exact openGroup_under st outer cs
  case h_2 => exact closeGroup_under st outer (h rfl) cs
  case h_3 => rfl
  case h_4 => exact bind_eq_map _ fun _ => bind_eq_map _ fun _ => rfl
  case h_5 => exact repeatLast_under st outer _ _ cs
  case h_6 => exact repeatLast_under st outer _ _ cs
  case h_7 => exact repeatLast_under st outer _ _ cs
  case h_8 => exact readCounted_under st outer cs
  case h_9 => exact bind_eq_map _ fun _ => bind_eq_map _ fun _ => rfl
  case h_10 => cases hdot : st.flags.dot <;> simp only [State.under, hdot] <;> rfl
  case h_11 => rfl
  case h_12 => rfl
  case h_13 =>
    cases hliteral : st.flags.literal c false <;> simp only [State.under, hliteral] <;> rfl

/-- A step that closes no group leaves the open groups open. -/
theorem frames_step {c : Char} (hc : c ≠ ')') {cs : List Char} {st' : State}
    (h : st.step c cs = .ok st') : st.frames <:+ st'.frames := by
  have hunder : st.step c cs = (State.step { st with frames := [] } c cs).map (·.under st.frames) :=
    step_under { st with frames := [] } st.frames (fun h => absurd h hc) cs
  rw [hunder] at h
  obtain ⟨st'', -, rfl⟩ := ok_of_map h
  exact List.suffix_append st''.frames st.frames

/-! ### Runs -/

theorem rest_step {c : Char} {cs : List Char} {st' : State} (h : st.step c cs = .ok st') :
    st'.rest <:+ cs :=
  (step_follows st c cs).suffix h

/-- More fuel than characters makes no difference. -/
theorem run_fuel {n m : Nat} {st : State} (hn : st.rest.length < n) (hm : st.rest.length < m) :
    run n st = run m st := by
  induction n generalizing m st with
  | zero => cases hn
  | succ n ih =>
      cases m with
      | zero => cases hm
      | succ m =>
          simp only [run]
          cases hcs : st.flags.skip st.rest with
          | nil => rfl
          | cons c cs =>
              simp only
              cases hstep : st.step c cs with
              | error e => rfl
              | ok st' =>
                  have hlt : st'.rest.length < st.rest.length := by
                    have hskip := (skip_suffix st.flags st.rest).length_le
                    have hrest := (rest_step st hstep).length_le
                    rw [hcs, List.length_cons] at hskip
                    omega
                  exact ih (by omega) (by omega)

/-- The reader runs to the end of its text. -/
def State.runAll (st : State) : Except Fault State :=
  run (st.rest.length + 1) st

variable {st}

theorem runAll_of_skip_nil (h : st.flags.skip st.rest = []) :
    st.runAll = .ok { st with rest := [] } := by
  rw [State.runAll, run, h]

theorem runAll_of_skip_cons {c : Char} {cs : List Char} (h : st.flags.skip st.rest = c :: cs) :
    st.runAll = st.step c cs >>= State.runAll := by
  rw [State.runAll, run, h]
  simp only
  cases hstep : st.step c cs with
  | error e => rfl
  | ok st' =>
      have hskip := (skip_suffix st.flags st.rest).length_le
      have hrest := (rest_step st hstep).length_le
      rw [h, List.length_cons] at hskip
      exact run_fuel (n := st.rest.length) (by omega) (Nat.lt_succ_self _)

/-- Induction along a run: what holds at the end, and at a state if it holds behind its next
step. -/
theorem runAll_induction {P : State → Prop}
    (step : ∀ st, (∀ c cs st', st.flags.skip st.rest = c :: cs → st.step c cs = .ok st' → P st') →
      P st) (st : State) : P st := by
  induction h : st.rest.length using Nat.strong_induction_on generalizing st with
  | _ n ih =>
      subst h
      refine step st fun c cs st' hcs hstep => ih _ ?_ st' rfl
      have hskip := (skip_suffix st.flags st.rest).length_le
      have hrest := (rest_step st hstep).length_le
      rw [hcs, List.length_cons] at hskip
      omega

/-- Where no parenthesis is left to close a group, the open groups stay open. -/
theorem frames_runAll {st' : State} (hparen : ')' ∉ st.rest) (h : st.runAll = .ok st') :
    st.frames <:+ st'.frames := by
  induction st using runAll_induction with
  | step st ih =>
      cases hcs : st.flags.skip st.rest with
      | nil =>
          rw [runAll_of_skip_nil hcs] at h
          cases h
          exact List.suffix_rfl
      | cons c cs =>
          rw [runAll_of_skip_cons hcs] at h
          obtain ⟨st'', hstep, h⟩ := ok_of_bind h
          have hsuffix : c :: cs <:+ st.rest := hcs ▸ skip_suffix st.flags st.rest
          have hc : c ≠ ')' := fun hc => hparen (hsuffix.mem (hc ▸ List.mem_cons_self))
          have hrest : ')' ∉ st''.rest := fun hmem =>
            hparen (hsuffix.mem (List.mem_cons_of_mem c ((rest_step st hstep).mem hmem)))
          exact (frames_step st hc hstep).trans (ih c cs st'' hcs hstep hrest h)

/-- The state in front of a tail, inside more open groups. -/
def State.framed (st : State) (outer : List Frame) (t : Tail) : State :=
  { st with rest := st.rest ++ t.chars, frames := st.frames ++ outer }

/-- `Continues alone behind` : a run gives `alone` by itself, and `behind outer t` inside the open
groups `outer` and with the tail `t` behind its text. -/
inductive Continues : Except Fault State → (List Frame → Tail → Except Fault State) → Prop
  /-- the run comes to the tail -/
  | reaches {st : State} {behind : List Frame → Tail → Except Fault State} (hrest : st.rest = [])
      (hbehind : ∀ outer t, behind outer t = (st.framed outer t).runAll) :
      Continues (.ok st) behind
  /-- a comment takes up the tail -/
  | swallowed {st : State} {behind : List Frame → Tail → Except Fault State}
      (hbehind : ∀ outer t, behind outer t = .ok (st.under outer)) : Continues (.ok st) behind
  /-- the text closes a group that it did not open -/
  | escapes {behind : List Frame → Tail → Except Fault State} :
      Continues (.error .unopenedGroup) behind
  /-- the groups around the text are never closed -/
  | fails {e : Fault} {behind : List Frame → Tail → Except Fault State}
      (hbehind : ∀ outer t st, behind outer t = .ok st → outer <:+ st.frames) :
      Continues (.error e) behind

/-- No count follows a brace behind which a parenthesis comes next. -/
theorem runAll_of_brace {inner more : List Char} (hrest : st.rest = '{' :: inner)
    (hskip : st.flags.skip inner = ')' :: more) : ∃ e, st.runAll = .error e := by
  have hstep : ∃ e, st.step '{' inner = .error e := by
    have hcount : readCount st.flags (')' :: more) = .ok (none, ')' :: more) :=
      congrArg (fun cs => Except.ok (none, cs)) (skip_cons st.flags (by decide) (by decide) more)
    simp only [State.step, State.readCounted, hskip, hcount]
    split
    · exact ⟨.badCount, rfl⟩
    · exact ⟨.nothingToRepeat, rfl⟩
  obtain ⟨e, he⟩ := hstep
  have hcs : st.flags.skip st.rest = '{' :: inner := by
    rw [hrest]
    exact skip_cons st.flags (by decide) (by decide) inner
  exact ⟨e, by rw [runAll_of_skip_cons hcs, he]; rfl⟩

theorem step_framed (outer : List Frame) (t : Tail) {c : Char} (h : c = ')' → st.frames ≠ [])
    (cs : List Char) :
    (st.framed outer t).step c cs = (st.step c cs).map (·.under outer) :=
  step_under st outer h cs

/-- Where the text is at fault by itself, the groups around it stay open. -/
theorem frames_of_astray {outer : List Frame} {t : Tail} {st st' : State} (h : Astray t st)
    (hrun : (st.under outer).runAll = .ok st') : outer <:+ st'.frames := by
  obtain h | ⟨inner, more, hrest, hskip⟩ := h
  · have hparen : ')' ∉ (st.under outer).rest := fun hmem => t.paren_notMem_more (h.mem hmem)
    exact (List.suffix_append st.frames outer).trans (frames_runAll hparen hrun)
  · have hrest : (st.under outer).rest = '{' :: inner := hrest
    obtain ⟨e, he⟩ := runAll_of_brace hrest hskip
    rw [he] at hrun
    cases hrun

/-- At the end of the text the run has come to the tail. -/
theorem runAll_continues_of_nil (hcs : st.flags.skip st.rest = [])
    (hskip : ∀ t : Tail, st.flags.skip (st.rest ++ t.chars) = t.chars) :
    Continues st.runAll fun outer t => (st.framed outer t).runAll := by
  rw [runAll_of_skip_nil hcs]
  -- a step does not look at the text that its state was left with
  refine .reaches rfl fun outer t => ?_
  have htail : (st.framed outer t).flags.skip (st.framed outer t).rest = ')' :: t.more := hskip t
  have htail' : (State.framed { st with rest := [] } outer t).flags.skip t.chars =
      ')' :: t.more := skip_cons st.flags (by decide) (by decide) t.more
  rw [runAll_of_skip_cons htail, runAll_of_skip_cons htail']
  rfl

/-- One step, if the run behind it goes with the tail as it goes by itself. -/
theorem runAll_continues_of_cons {c : Char} {cs : List Char}
    (hcs : st.flags.skip st.rest = c :: cs)
    (hskip : ∀ t : Tail, st.flags.skip (st.rest ++ t.chars) = c :: (cs ++ t.chars))
    (ih : ∀ st', st.step c cs = .ok st' →
      Continues st'.runAll fun outer t => (st'.framed outer t).runAll) :
    Continues st.runAll fun outer t => (st.framed outer t).runAll := by
  rw [runAll_of_skip_cons hcs]
  by_cases hescape : c = ')' ∧ st.frames = []
  · obtain ⟨rfl, hframes⟩ := hescape
    have herror : st.step ')' cs = .error .unopenedGroup := by
      simp only [State.step, State.closeGroup, hframes]
    rw [herror]
    exact .escapes
  have hframed (outer : List Frame) (t : Tail) : (st.framed outer t).runAll =
      (st.step c (cs ++ t.chars)).map (·.under outer) >>= State.runAll := by
    have hcs' : (st.framed outer t).flags.skip (st.framed outer t).rest =
        c :: (cs ++ t.chars) := hskip t
    rw [runAll_of_skip_cons hcs', step_framed outer t fun hc hframes => hescape ⟨hc, hframes⟩]
  simp only [hframed]
  have hfollows := step_follows st c cs
  generalize hbehind : (fun t : Tail => st.step c (cs ++ t.chars)) = behind at hfollows
  have hbehind (t : Tail) : st.step c (cs ++ t.chars) = behind t := congrFun hbehind t
  simp only [hbehind]
  cases hstep : st.step c cs with
  | ok st' =>
      rw [hstep] at hfollows
      cases hfollows with
      | left _ h =>
          simp only [h]
          exact ih st' hstep
      | swallowed hrest h =>
          have hend : st'.flags.skip st'.rest = [] :=
            (congrArg st'.flags.skip hrest).trans (skip_nil st'.flags)
          simp only [h]
          show Continues st'.runAll fun outer _ => (st'.under outer).runAll
          rw [runAll_of_skip_nil hend]
          exact .swallowed fun outer t => runAll_of_skip_nil hend
  | error e =>
      rw [hstep] at hfollows
      cases hfollows with
      | fails h =>
          refine .fails fun outer t st'' hst'' => ?_
          cases hb : behind t with
          | error e => rw [hb] at hst''; cases hst''
          | ok st' =>
              rw [hb] at hst''
              exact frames_of_astray (h t st' hb) hst''

/-- **A run with a tail and open groups around it** goes as it goes by itself, up to the tail. -/
theorem runAll_continues (st : State) :
    Continues st.runAll fun outer t => (st.framed outer t).runAll := by
  induction st using runAll_induction with
  | step st ih =>
      obtain hskip | ⟨hnil, hskip⟩ := skip_append st.flags st.rest
      · cases hcs : st.flags.skip st.rest with
        | nil =>
            rw [hcs] at hskip
            exact runAll_continues_of_nil hcs hskip
        | cons c cs =>
            rw [hcs] at hskip
            exact runAll_continues_of_cons hcs hskip fun st' hstep => ih c cs st' hcs hstep
      · rw [runAll_of_skip_nil hnil]
        exact .swallowed fun outer t => runAll_of_skip_nil (hskip t)

/-! ### The frame of a constraint -/

/-- The piece that a state ends with, if all groups are closed. -/
def State.finish (st : State) : Except Fault Piece :=
  match st.frames with
  | [] => .ok st.content
  | _ => .error .unclosedGroup

/-- What a text writes, before its size is looked at. -/
def readPiece (text : List Char) : Except Fault Piece :=
  State.runAll { rest := text } >>= State.finish

/-- The expression of a piece that is not too deep and not too big. -/
def Piece.bounded (p : Piece) : Except Fault Regex :=
  if p.depth > depthLimit then .error .tooDeep
  else if p.expr.weight > weightLimit then .error .tooBig
  else .ok p.expr

theorem parse_eq (text : String) : parse text = readPiece text.toList >>= Piece.bounded := by
  rw [readPiece, bind_assoc]
  unfold parse State.runAll
  refine congrArg _ (funext fun st => ?_)
  simp only [State.finish]
  cases st.frames <;> rfl

theorem parse_eq_ok_iff {text : String} {r : Regex} :
    parse text = .ok r ↔ ∃ p, readPiece text.toList = .ok p ∧ p.depth ≤ depthLimit ∧
      p.expr.weight ≤ weightLimit ∧ p.expr = r := by
  have hbounded (p : Piece) : p.bounded = .ok r ↔
      p.depth ≤ depthLimit ∧ p.expr.weight ≤ weightLimit ∧ p.expr = r := by
    unfold Piece.bounded
    split
    · next h => simp [Nat.not_le.2 h]
    · split
      · next h => simp [Nat.not_le.2 h]
      · next hdepth hweight => simp [Nat.not_lt.1 hdepth, Nat.not_lt.1 hweight]
  rw [parse_eq]
  constructor
  · intro h
    obtain ⟨p, hp, hr⟩ := ok_of_bind h
    exact ⟨p, hp, (hbounded p).1 hr⟩
  · rintro ⟨p, hp, hr⟩
    rw [hp]
    exact (hbounded p).2 hr

/-- A piece in the frame that anchors it at both ends. -/
def Piece.anchored (p : Piece) : Piece :=
  { expr := seqAll [.look .start, p.expr, .look .stop], depth := p.depth + 2 }

/-- The tail of the frame, and the parenthesis alone. -/
def Tail.dollar : Tail := ⟨['$'], by simp⟩

def Tail.paren : Tail := ⟨[], by simp⟩

/-- The group of the frame stands behind the start of the text. -/
def anchorGroup : Frame := ⟨[{ expr := .look .start }], [], {}⟩

/-- A step that comes out at a state is the start of its run. -/
theorem runAll_of_step {st st' : State} {c : Char} {cs : List Char}
    (hskip : st.flags.skip st.rest = c :: cs) (hstep : st.step c cs = .ok st') :
    st.runAll = st'.runAll := by
  rw [runAll_of_skip_cons hskip, hstep]
  rfl

theorem runAll_anchored (text : List Char) :
    State.runAll { rest := '^' :: '(' :: '?' :: ':' :: (text ++ [')', '$']) } =
      (State.framed { rest := text } [anchorGroup] .dollar).runAll := by
  have hcaret : State.runAll { rest := '^' :: '(' :: '?' :: ':' :: (text ++ [')', '$']) } =
      State.runAll { rest := '(' :: '?' :: ':' :: (text ++ [')', '$'])
                     pieces := [{ expr := .look .start }] } :=
    runAll_of_step (c := '^') rfl rfl
  rw [hcaret]
  exact runAll_of_step (c := '(') rfl rfl

/-- Behind an expression whose groups are closed, the frame is closed. -/
theorem runAll_framed_dollar {st : State} (hrest : st.rest = []) (hframes : st.frames = []) :
    (st.framed [anchorGroup] .dollar).runAll >>= State.finish = .ok st.content.anchored := by
  have hparen : (st.framed [anchorGroup] .dollar).flags.skip
      (st.framed [anchorGroup] .dollar).rest = [')', '$'] := by
    simp only [State.framed, hrest]
    exact skip_cons st.flags (by decide) (by decide) ['$']
  have hclose : (st.framed [anchorGroup] .dollar).step ')' ['$'] = .ok
      { rest := ['$'], names := st.names
        pieces := [{ expr := st.content.expr, depth := st.content.depth + 1 },
          { expr := .look .start }] } := by
    simp only [State.step, State.closeGroup, State.framed, hframes]
    rfl
  rw [runAll_of_step hparen hclose, @runAll_of_step _ _ '$' [] rfl rfl,
    runAll_of_skip_nil rfl]
  have hdepth : 1 + max (max (max 0 0) (st.content.depth + 1)) 0 = st.content.depth + 2 := by omega
  exact congrArg (fun d => Except.ok ({ expr := st.content.anchored.expr, depth := d } : Piece))
    hdepth

theorem finish_of_frames {st : State} (h : st.frames ≠ []) :
    st.finish = .error .unclosedGroup := by
  obtain ⟨fr, frames, hframes⟩ := List.exists_cons_of_ne_nil h
  simp only [State.finish, hframes]

/-- Where a group is open in front of the tail, a group is open at its end. -/
theorem runAll_framed_open {outer : List Frame} {st : State} (t : Tail) (hrest : st.rest = [])
    (hframes : st.frames ≠ []) {st' : State} (h : (st.framed outer t).runAll = .ok st') :
    outer <:+ st'.frames := by
  have hparen : (st.framed outer t).flags.skip (st.framed outer t).rest = ')' :: t.more := by
    simp only [State.framed, hrest]
    exact skip_cons st.flags (by decide) (by decide) t.more
  obtain ⟨fr, frames, hst⟩ := List.exists_cons_of_ne_nil hframes
  rw [runAll_of_skip_cons hparen] at h
  obtain ⟨st'', hclose, h⟩ := ok_of_bind h
  simp only [State.step, State.closeGroup, State.framed, hst, List.cons_append] at hclose
  cases hclose
  exact (List.suffix_append frames outer).trans (frames_runAll t.paren_notMem_more h)

/-- The text of an expression in its frame. -/
def anchoredText (text : List Char) : List Char :=
  '^' :: '(' :: '?' :: ':' :: (text ++ [')', '$'])

theorem readPiece_anchoredText (text : List Char) :
    readPiece (anchoredText text) =
      (State.framed { rest := text } [anchorGroup] .dollar).runAll >>= State.finish :=
  congrArg (· >>= State.finish) (runAll_anchored text)

/-- **What an expression becomes in its frame.** The frame is closed behind it, and then the
parenthesis is one too many for the expression alone; or the expression ends in a comment, which
takes up the end of the frame. -/
theorem readPiece_anchored {text : List Char} {p : Piece} (h : readPiece text = .ok p) :
    (readPiece (anchoredText text) = .ok p.anchored ∧
        readPiece (text ++ [')']) = .error .unopenedGroup) ∨
      (readPiece (anchoredText text) = .error .unclosedGroup ∧
        readPiece (text ++ [')']) = .ok p) := by
  obtain ⟨st, hrun, hfinish⟩ := ok_of_bind h
  have hframes : st.frames = [] := by
    by_contra hne
    rw [finish_of_frames hne] at hfinish
    cases hfinish
  have hcontent : st.content = p := by
    simp only [State.finish, hframes] at hfinish
    exact Except.ok.inj hfinish
  have hparen : readPiece (text ++ [')']) =
      (State.framed { rest := text } [] .paren).runAll >>= State.finish := rfl
  have hcontinues := runAll_continues { rest := text }
  rw [hrun] at hcontinues
  rw [readPiece_anchoredText, hparen]
  cases hcontinues with
  | reaches hrest hbehind =>
      simp only [hbehind]
      refine .inl ⟨hcontent ▸ runAll_framed_dollar hrest hframes, ?_⟩
      have hskip : (st.framed [] .paren).flags.skip (st.framed [] .paren).rest = [')'] := by
        simp only [State.framed, hrest]
        exact skip_cons st.flags (by decide) (by decide) []
      rw [runAll_of_skip_cons hskip]
      simp only [State.step, State.closeGroup, State.framed, hframes]
      rfl
  | swallowed hbehind =>
      simp only [hbehind]
      refine .inr ⟨?_, ?_⟩
      · have hne : (st.under [anchorGroup]).frames ≠ [] := by simp [State.under]
        exact finish_of_frames hne
      · show (st.under []).finish = .ok p
        simp only [State.finish, State.under, hframes, List.nil_append]
        exact congrArg Except.ok hcontent

/-- **The only way out of the frame** is to close a group that the expression did not open. -/
theorem unopenedGroup_of_readPiece_anchored {text : List Char} {p : Piece} {e : Fault}
    (h : readPiece text = .error e) (hanchored : readPiece (anchoredText text) = .ok p) :
    e = .unopenedGroup := by
  rw [readPiece_anchoredText] at hanchored
  obtain ⟨st, hframed, hfinish⟩ := ok_of_bind hanchored
  -- no group is open at the end, so the group of the frame was closed
  have hclosed : ¬[anchorGroup] <:+ st.frames := by
    intro hsuffix
    have hne : st.frames ≠ [] := fun hnil => by
      rw [hnil] at hsuffix
      cases List.suffix_nil.1 hsuffix
    rw [finish_of_frames hne] at hfinish
    cases hfinish
  have hcontinues := runAll_continues { rest := text }
  rw [readPiece] at h
  cases hrun : State.runAll { rest := text } with
  | ok st' =>
      rw [hrun] at h hcontinues
      have hframes : st'.frames ≠ [] := by
        intro hnil
        have h : st'.finish = .error e := h
        simp only [State.finish, hnil] at h
        cases h
      cases hcontinues with
      | reaches hrest hbehind =>
          exact absurd (runAll_framed_open .dollar hrest hframes (hbehind _ _ ▸ hframed)) hclosed
      | swallowed hbehind =>
          cases (hbehind _ _).symm.trans hframed
          exact absurd (List.suffix_append st'.frames [anchorGroup]) hclosed
  | error e' =>
      rw [hrun] at h hcontinues
      cases h
      cases hcontinues with
      | escapes => rfl
      | fails hbehind => exact absurd (hbehind _ _ _ hframed) hclosed

end Switchyard.Regex
