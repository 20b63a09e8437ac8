/-
# The verdict of an authenticated decryption

`fsl_shw_auth_decrypt` compares the MAC that the accelerator calculated with the one that was
supplied.
-/
import Mx27Drivers.Shw.Wiped
import Mx27Drivers.Shw.Ccm

namespace Mx27.Shw

open List Option

open Sahara (Return)

structure Result where
  code : Return
  chain : List Desc
  out1 : Option Ptr
  out2 : Option Ptr
  outLen : BitVec 32
  saveDescChain : Bool

def differs (m : Mem) (p q : Ptr) (n : ℕ) : Bool :=
  (List.range n).any fun i => m p.block (p.offset + i) ≠ m q.block (q.offset + i)

/-- `sah_Postprocess_Results`; `m` is the memory before everything in the log. -/
def sahPostprocessResults (m : Mem) : List Result → World → List Result × World
  | [], w => ([], w)
  | r :: results, w =>
    let (code, w₁) :=
      match r.out1, r.out2 with
      | some out1, some out2 =>
        (if differs (Wipe.runAll w.log m) out1 out2 r.outLen.toNat then .authFailed else r.code,
          w.emit [.free out1.block out1.offset])
      | _, _ => (r.code, w)
    let w₂ := if r.saveDescChain then w₁ else sahDescriptorChainDestroy r.chain w₁
    let rest := sahPostprocessResults m results w₂
    ({ r with code := code } :: rest.1, rest.2)

section
variable (st : Statics) (req : CcmRequest)

/-- `sah_Descriptor_Chain_Execute` in non-blocking mode, to the end of the run. -/
def queueChain (e : Exec) (calced : Ptr) (chain : List Desc) (w : World) :
  Option (Return × List Result × World) :=
  if chain = [] ∨ e.aligned = false then some (.error, [], w)
  else
    let r := sahReworkLinks chain w
    if r.1 = .ok then
      (adaptorRun e r.2.1 r.2.2).map fun r =>
        (.ok, [⟨e.result, r.1, some calced, some req.authCtx.unencryptedMac, req.authCtx.macLength.setWidth 32,
          e.saveDescChain⟩], r.2)
    else some (r.1, [], r.2.2)

/-- `fsl_shw_auth_decrypt`: the status, the results that are in the pool when the run is over. -/
def fslShwAuthDecrypt (uco : Uco) (e : Exec) (m : Mem) (w : World) : Option (Return × List Result × World) :=
  if sahValidateUco uco ≠ .ok then some (sahValidateUco uco, [], w)
  else
    match authDecryptChain st req w with
    | (.error status, w') => some (status, [], w')
    | (.ok (chain, calced), w') =>
      if uco.blockingMode then
        (sahDescriptorChainExecute e chain w').map fun r =>
          (if r.1 = .ok ∧
              differs (Wipe.runAll r.2.2.log m) calced req.authCtx.unencryptedMac req.authCtx.macLength.toNat = true then
            .authFailed
          else r.1, [], r.2.2.emit [.free calced.block calced.offset])
      else queueChain req e calced chain w'

end

/-! ### What a request owns -/

structure Grown (w w' : World) (chain chain' : List Desc) : Prop where
  buffers : w.buffers ≤ w'.buffers
  log : ∃ calls, w'.log = w.log ++ calls ∧ ∀ c ∈ calls, ∀ b, ¬ c.Frees b
  sound : Sound (chainLinks chain) → Sound (chainLinks chain')
  owned : ∀ x ∈ owned (chainLinks chain'),
    x ∈ owned (chainLinks chain) ∨ w.buffers ≤ x.block.1 ∧ x.block.1 < w'.buffers

namespace Grown

variable {w w' w'' : World} {chain chain' chain'' : List Desc}

lemma trans (h : Grown w w' chain chain') (h' : Grown w' w'' chain' chain'') : Grown w w'' chain chain'' := by
  obtain ⟨calls,hlog,hcalls⟩ := h.log
  obtain ⟨calls',hlog',hcalls'⟩ := h'.log
  refine ⟨h.buffers.trans h'.buffers,⟨calls ++ calls',by rw [hlog',hlog,List.append_assoc],?_⟩,
    fun hs => h'.sound (h.sound hs),fun x hx => ?_⟩
  · intro c hc
    rcases mem_append.mp hc with hc | hc
    · exact hcalls c hc
    · exact hcalls' c hc
  · rcases h'.owned x hx with hx | hx
    · rcases h.owned x hx with hx | hx
      · exact .inl hx
      · exact .inr ⟨hx.1,hx.2.trans_le h'.buffers⟩
    · exact .inr ⟨h.buffers.trans hx.1,hx.2⟩

lemma append (calls : List MemCall) (hbuffers : w.buffers ≤ w'.buffers) (hlog : w'.log = w.log ++ calls)
  (hcalls : ∀ c ∈ calls, ∀ b, ¬ c.Frees b) {d : Desc} (hsound : Sound d.links)
  (howned : ∀ x ∈ Shw.owned d.links, w.buffers ≤ x.block.1 ∧ x.block.1 < w'.buffers) :
  Grown w w' chain (chain ++ [d]) := by
  have hlinks : chainLinks (chain ++ [d]) = chainLinks chain ++ d.links := by
    rw [chainLinks,flatMap_append,flatMap_singleton]
    rfl
  refine ⟨hbuffers,⟨calls,hlog,hcalls⟩,fun hs => ?_,fun x hx => ?_⟩
  · rw [hlinks,Sound.append]
    exact ⟨hs,hsound⟩
  · rw [hlinks,owned_append] at hx
    exact (mem_append.mp hx).imp_right (howned x)

end Grown

def OwnsAtMost (b : ℕ) (links : List Link) : Prop := ∀ link ∈ links, link.Sound ∧ (link.flags.owns = true → link.data.buffer = b)

variable {links : List Link}

lemma OwnsAtMost.sound {b : ℕ} (h : OwnsAtMost b links) : Sound links := fun l hl => (h l hl).1

lemma OwnsAtMost.owned {b : ℕ} (h : OwnsAtMost b links) : ∀ x ∈ owned links, x.block.1 = b := by
  intro x hx
  obtain ⟨link,hlink,hx⟩ := mem_flatMap.mp hx
  rw [Link.owned] at hx
  split at hx
  · next howns =>
    rw [mem_singleton.mp hx]
    exact (h link hlink).2 howns
  · cases hx

lemma OwnsAtMost.append {b : ℕ} {links' : List Link} (h : OwnsAtMost b links) (h' : OwnsAtMost b links') :
  OwnsAtMost b (links ++ links') := fun l hl => (mem_append.mp hl).elim (h l) (h' l)

def Plain (links : List Link) : Prop := ∀ link ∈ links, link.Sound ∧ link.flags.owns = false

lemma Plain.owned (h : Plain links) : owned links = [] := by
  refine flatMap_eq_nil_iff.mpr fun link hlink => ?_
  rw [Link.owned,(h link hlink).2]
  rfl

lemma userLink_plain (p : Option Ptr) (n : BitVec 32) (output : Bool) : Yields (userLink p n output) Plain := by
  intro w w' links h
  obtain ⟨hw,rfl⟩ := userLink_yields p n output _ _ _ h
  refine ⟨hw,fun link hlink => ?_⟩
  obtain ⟨q,-,rfl⟩ := List.mem_map.mp hlink
  exact ⟨⟨rfl,fun howns => by cases howns⟩,rfl⟩

lemma keyLink_plain (k : KeyInfo) : Yields (keyLink k) Plain := by
  refine (createKeyLink_yields k).bind fun link hlink => Yields.pure fun l hl => ?_
  rw [mem_singleton.mp hl]
  rcases hlink with ⟨-,rfl⟩ | ⟨-,-,rfl⟩
  · exact ⟨⟨rfl,fun howns => by cases howns⟩,rfl⟩
  · exact ⟨⟨rfl,fun howns => by cases howns⟩,rfl⟩

section
variable {st : Statics} {req : CcmRequest} {w w' : World} {chain chain' : List Desc}

lemma addDesc_grown {header : BitVec 32} {make1 make2 : Build (List Link)} (h1 : Yields make1 Plain)
  (h2 : Yields make2 Plain) (h : addDesc header make1 make2 chain w = (.ok chain', w')) :
  Grown w w' chain chain' ∧ owned (chainLinks chain') = owned (chainLinks chain) ∧ chain' ≠ [] := by
  obtain ⟨hw,d,rfl,-,hd1,hd2⟩ := addDesc_ok h1 h2 chain _ _ _ h
  have hplain : Plain d.links := fun l hl => (mem_append.mp hl).elim (hd1 l) (hd2 l)
  refine ⟨Grown.append [] hw.buffers.ge (by rw [hw.log,append_nil]) (fun _ hc => absurd hc not_mem_nil)
    (fun l hl => (hplain l hl).1) (fun x hx => by rw [hplain.owned] at hx; cases hx),?_,by simp⟩
  rw [chainLinks,flatMap_append,flatMap_singleton,owned_append,hplain.owned,append_nil]
  rfl

lemma assocPart_ok {p : Ptr} {part : AssocPart} (h : assocPart st req p w = (.ok part, w')) :
  w'.buffers = w.buffers ∧ (∃ calls, w'.log = w.log ++ calls ∧ ∀ c ∈ calls, ∀ b, ¬ c.Frees b) ∧
    OwnsAtMost p.buffer part.link1 ∧ part.tempBuf.buffer = p.buffer := by
  unfold assocPart at h
  split at h
  · obtain ⟨r,w1,h1,h⟩ := Build.bind_eq_ok h
    obtain ⟨hlinks,hbuffers,hlog⟩ := processAssoc_ok h1
    obtain ⟨hpart,rfl⟩ := Prod.mk.inj h
    cases hpart
    refine ⟨hbuffers,⟨_,hlog,fun c hc b hf => ?_⟩,fun l hl => ?_,rfl⟩
    · rw [mem_singleton.mp hc] at hf
      exact hf
    · rw [show r.1 = _ from hlinks,assocLinks] at hl
      have hcases : l = newLink req.authCtx.ccmContext BLOCK_SIZE_BYTES usesFlags ∨
          l = newLink p (computeNistAuthLenSize req.authDataLength) ownsFlags ∨
          l = newLink req.authData req.authDataLength usesFlags ∨
          l = newLink st.blockZeros (authPadLength req) usesFlags := by
        split at hl <;> simp at hl <;> tauto
      rcases hcases with rfl | rfl | rfl | rfl
      · exact ⟨⟨rfl,fun howns => by cases howns⟩,fun howns => by cases howns⟩
      · exact ⟨⟨rfl,fun _ => rfl⟩,fun _ => rfl⟩
      · exact ⟨⟨rfl,fun howns => by cases howns⟩,fun howns => by cases howns⟩
      · exact ⟨⟨rfl,fun howns => by cases howns⟩,fun howns => by cases howns⟩
  · obtain ⟨link,w1,h1,h⟩ := Build.bind_eq_ok h
    obtain ⟨hw1,rfl⟩ := createLink_yields _ _ _ _ _ _ h1
    obtain ⟨hpart,rfl⟩ := Prod.mk.inj h
    cases hpart
    refine ⟨hw1.buffers,⟨[],by rw [hw1.log,append_nil],fun _ hc => absurd hc not_mem_nil⟩,fun l hl => ?_,rfl⟩
    rw [mem_singleton.mp hl]
    exact ⟨⟨rfl,fun howns => by cases howns⟩,fun howns => by cases howns⟩

lemma preamble_grown (h : addAssocPreamble st req chain w = (.ok chain', w')) : Grown w w' chain chain' := by
  unfold addAssocPreamble at h
  obtain ⟨p,w1,hp,h⟩ := Build.bind_eq_ok h
  obtain ⟨hblock,-,hlog1,hbuf1⟩ := malloc_ok hp
  obtain ⟨part,w2,h2,h⟩ := Build.bind_eq_ok h
  obtain ⟨hbuf2,⟨calls,hlog2,hcalls⟩,hpart,htemp⟩ := assocPart_ok h2
  obtain ⟨link,w3,h3,h⟩ := Build.bind_eq_ok h
  obtain ⟨hw3,rfl⟩ := (createLink_yields _ _ _).onFailure _ _ _ _ h3
  obtain ⟨link2,w4,h4,h⟩ := Build.bind_eq_ok h
  obtain ⟨hw4,more,rfl,hmore⟩ := sinkLoop_yields _ _ _ _ _ _ _ h4
  obtain ⟨hw',rfl⟩ := appendDesc_yields _ _ _ _ _ _ _ h
  have hbuffer : p.buffer = w.buffers := congrArg Prod.fst hblock
  have hw : w'.buffers = w.buffers + 1 := by rw [hw'.buffers,hw4.buffers,hw3.buffers,hbuf2,hbuf1]
  have hlinks : OwnsAtMost p.buffer (part.link1 ++ (newLink part.tempBuf BLOCK_SIZE_BYTES
      ⟨part.owns,true,false,false,false⟩ :: more)) := by
    refine hpart.append fun l hl => ?_
    rcases mem_cons.mp hl with rfl | hl
    · exact ⟨⟨rfl,fun _ => rfl⟩,fun _ => htemp⟩
    · have hflags := hmore l hl
      exact ⟨⟨by rw [hflags],fun _ => by rw [hflags]⟩,fun howns => by rw [hflags] at howns; cases howns⟩
  refine Grown.append calls (by omega) ?_ hcalls hlinks.sound fun x hx => ?_
  · rw [hw'.log,hw4.log,hw3.log,hlog2,hlog1]
  · have := hlinks.owned x hx
    omega

lemma orDestroy_grown {f : List Desc → Build (List Desc)}
  (hf : ∀ {w w'}, f chain w = (.ok chain', w') → Grown w w' chain chain')
  (h : orDestroy f chain w = (.ok chain', w')) : Grown w w' chain chain' := hf (Build.onFailure_eq_ok.mp h)

lemma prologue_grown {inp out : Option Ptr} {n k : BitVec 32}
  (h : prologue st req (addInOutDesc SAH_HDR_SKHA_ENC_DEC inp n out k) w = (.ok chain, w')) : Grown w w' [] chain := by
  unfold prologue at h
  split at h
  · cases h
  · split at h
    · cases h
    · obtain ⟨chain1,w1,h1,h⟩ := Build.bind_eq_ok h
      have hg1 := (addDesc_grown (userLink_plain _ _ _) (keyLink_plain _) h1).1
      obtain ⟨chain2,w2,h2,h⟩ := Build.bind_eq_ok h
      have hg2 := orDestroy_grown (fun h => (addDesc_grown (userLink_plain _ _ _) (userLink_plain _ _ _) h).1) h2
      obtain ⟨chain3,w3,h3,h⟩ := Build.bind_eq_ok h
      have hg3 := orDestroy_grown (fun h => (addDesc_grown (userLink_plain _ _ _) (userLink_plain _ _ _) h).1) h3
      have hg := (hg1.trans hg2).trans hg3
      split at h
      · exact hg.trans (orDestroy_grown preamble_grown h)
      · obtain ⟨hc,rfl⟩ := Prod.mk.inj h
        cases hc
        exact hg

structure Made (w w' : World) (chain : List Desc) (calced : Ptr) : Prop where
  nonempty : chain ≠ []
  log : ∃ calls, w'.log = w.log ++ calls ∧ ∀ c ∈ calls, ∀ b, ¬ c.Frees b
  sound : Sound (chainLinks chain)
  owned : ∀ x ∈ owned (chainLinks chain), w.buffers ≤ x.block.1 ∧ x.block.1 < calced.buffer
  calced : w.buffers ≤ calced.buffer

lemma authDecryptChain_made {calced : Ptr} (h : authDecryptChain st req w = (.ok (chain, calced), w')) :
  Made w w' chain calced := by
  unfold authDecryptChain at h
  obtain ⟨first,w1,h1,h⟩ := Build.bind_eq_ok h
  have hg1 := prologue_grown h1
  obtain ⟨chain2,w2,h2,h⟩ := Build.bind_eq_ok h
  have hg2 := orDestroy_grown (fun h => (addDesc_grown (userLink_plain _ _ _) (userLink_plain _ _ _) h).1) h2
  obtain ⟨calced',w3,h3,h⟩ := Build.bind_eq_ok h
  obtain ⟨hblock,-,hlog3,-⟩ := malloc_ok (Build.onFailure_eq_ok.mp h3)
  obtain ⟨chain4,w4,h4,h⟩ := Build.bind_eq_ok h
  have h4' := Build.onFailure_eq_ok.mp (Build.onFailure_eq_ok.mp h4)
  obtain ⟨hg4,howned,hne⟩ := addDesc_grown (userLink_plain _ _ _) (userLink_plain _ _ _) h4'
  obtain ⟨hr,rfl⟩ := Prod.mk.inj h
  obtain ⟨rfl,rfl⟩ := Prod.mk.inj (Except.ok.inj hr)
  have hg := hg1.trans hg2
  have hbuffer : calced'.buffer = w2.buffers := congrArg Prod.fst hblock
  obtain ⟨calls,hlog,hcalls⟩ := hg.log
  obtain ⟨calls4,hlog4,hcalls4⟩ := hg4.log
  refine ⟨hne,⟨calls ++ calls4,?_,?_⟩,hg4.sound (hg.sound fun _ hl => absurd hl not_mem_nil),?_,?_⟩
  · rw [hlog4,hlog3,hlog,List.append_assoc]
  · intro c hc
    exact (mem_append.mp hc).elim (hcalls c) (hcalls4 c)
  · intro x hx
    rw [howned] at hx
    rw [hbuffer]
    exact (hg.owned x hx).resolve_left fun hx => absurd hx not_mem_nil
  · rw [hbuffer]
    exact hg.buffers

end

lemma splitLast_blocks_rework (links : List Link) (w : World) :
  (owned (sahReworkLinkChain links w).2.1).map Wipe.Buffer.block = (owned links).map Wipe.Buffer.block := by
  obtain ⟨-,h | ⟨-,h⟩⟩ := sahReworkLinkChain_cases links w
  · rw [h]
  · rw [h,splitLast_blocks]

lemma reworkLinks_blocks (chain : List Desc) (w : World) (hs : Sound (chainLinks chain)) :
  w.Same (sahReworkLinks chain w).2.2 ∧
    (owned (chainLinks (sahReworkLinks chain w).2.1)).map Wipe.Buffer.block =
      (owned (chainLinks chain)).map Wipe.Buffer.block ∧
    Sound (chainLinks (sahReworkLinks chain w).2.1) := by
  have h := reworkLinks_rel
    (R := fun links links' => (owned links').map Wipe.Buffer.block = (owned links).map Wipe.Buffer.block ∧
      (Sound links → Sound links'))
    (fun _ => ⟨rfl,fun h => h⟩)
    (fun ha hb => ⟨by rw [owned_append,owned_append,map_append,map_append,ha.1,hb.1],fun h => by
      rw [Sound.append] at h ⊢
      exact ⟨ha.2 h.1,hb.2 h.2⟩⟩) chain w
    fun d _ links _ w => ⟨splitLast_blocks_rework links w,reworkLinkChain_sound links w⟩
  exact ⟨h.1,h.2.1,h.2.2 hs⟩

lemma destroyLink_log (links : List Link) (w : World) :
  (sahDestroyLink links w).log = w.log ++ (owned links).flatMap Wipe.wipe := by
  rw [← destroyCalls_eq]
  rfl

lemma destroyChain_log : ∀ (chain : List Desc) (w : World),
  (sahDescriptorChainDestroy chain w).log = w.log ++ (owned (chainLinks chain)).flatMap Wipe.wipe
  | [], w => (append_nil _).symm
  | d :: chain, w => by
    have ih := destroyChain_log chain (sahDestroyLink d.ptr2 (sahDestroyLink d.ptr1 w))
    rw [destroyLink_log,destroyLink_log] at ih
    rw [chainLinks,flatMap_cons,owned_append,Desc.links,owned_append,flatMap_append,flatMap_append,
      ← List.append_assoc,← List.append_assoc]
    exact ih

/-! ### The verdict -/

lemma differs_eq_false {m : Mem} {p q : Ptr} {n : ℕ} : differs m p q n = false ↔ bytesAt m p n = bytesAt m q n := by
  rw [differs,List.any_eq_false,bytesAt,bytesAt,map_inj_left]
  simp only [decide_eq_true_eq,ne_eq,not_not]

lemma bytesAt_wiped {xs : List Buffer} {p : Ptr} (h : ∀ x ∈ xs, x.block ≠ p.block) (m : Mem) (n : ℕ) :
  bytesAt (Wipe.runAll (xs.flatMap Wipe.wipe) m) p n = bytesAt m p n := by
  refine map_congr_left fun i _ => Wipe.runAll_untouched (fun f hf => ?_) (fun off k hk _ => ?_) m
  · obtain ⟨x,-,hx⟩ := mem_flatMap.mp hf
    simp [Wipe.wipe] at hx
  · obtain ⟨x,hx,hk⟩ := mem_flatMap.mp hk
    have hb : p.block = x.block := by
      simp only [Wipe.wipe,mem_cons,Wipe.Call.memset.injEq,reduceCtorEq,not_mem_nil,or_false] at hk
      exact hk.1
    exact h x hx hb.symm

lemma not_frees_wiped {xs : List Buffer} {b : ℕ × Bool} (h : ∀ x ∈ xs, x.block ≠ b) :
  ∀ c ∈ xs.flatMap (Wipe.wipe (β := Byte)), ¬ c.Frees b := by
  intro c hc hf
  obtain ⟨x,hx,hc⟩ := mem_flatMap.mp hc
  rcases mem_cons.mp hc with rfl | hc
  · exact hf
  · rw [mem_singleton.mp hc] at hf
    exact h x hx hf

def FreedOnce (log : List MemCall) (b : ℕ × Bool) : Prop :=
  ∃ before off after, log = before ++ .free b off :: after ∧ ∀ c ∈ before ++ after, ¬ c.Frees b

structure SameVerdict (req : CcmRequest) (e : Exec) (memory : Mem) (calced : Ptr) (codeB codeN : Return)
    (logB logN : List MemCall) : Prop where
  same : codeN = codeB
  success : codeN = .ok → e.result = .ok ∧
    bytesAt memory calced req.authCtx.macLength.toNat =
      bytesAt memory req.authCtx.unencryptedMac req.authCtx.macLength.toNat
  freedB : FreedOnce logB calced.block
  freedN : FreedOnce logN calced.block

structure Settled (req : CcmRequest) (w : World) : Prop where
  mac : req.authCtx.unencryptedMac.buffer < w.buffers
  frees : ∀ c ∈ w.log, ∀ b, c.Frees b → b.1 < w.buffers

section
variable {st : Statics} {req : CcmRequest} {e : Exec} {m : Mem} {w w' : World} {chain : List Desc} {calced : Ptr}

lemma validate_blocking {uco : Uco} (h : sahValidateUco { uco with blockingMode := false } = .ok) :
  sahValidateUco { uco with blockingMode := true, callbackMode := false } = .ok := by
  simp only [sahValidateUco] at h ⊢
  split at h
  · cases h
  · next hfd =>
    rw [if_neg (by simp)] at h
    split at h
    · cases h
    · next hmu =>
      split at h
      · cases h
      · next hpool =>
        rw [if_neg hfd,if_neg (by simp),if_neg hmu,if_neg hpool,if_neg (by simp)]

structure Over (w : World) (chain' : List Desc) (calced : Ptr) (wN : World) : Prop where
  owned : ∀ x ∈ owned (chainLinks chain'), w.buffers ≤ x.block.1 ∧ x.block.1 < calced.buffer
  log : ∃ calls, wN.log = w.log ++ calls ∧ ∀ c ∈ calls, ∀ b, ¬ c.Frees b

variable {wN : World} {chain' : List Desc}

lemma queue_over (hmade : Made w w' chain calced) {res : Result}
  (h : queueChain req e calced chain w' = some (.ok, [res], wN)) :
  Over w res.chain calced wN ∧
    res = ⟨e.result, res.chain, some calced, some req.authCtx.unencryptedMac, req.authCtx.macLength.setWidth 32,
      e.saveDescChain⟩ ∧
    sahDescriptorChainExecute e chain w' =
      some (e.result, if e.saveDescChain then res.chain else [],
        if e.saveDescChain then wN else sahDescriptorChainDestroy res.chain wN) := by
  rw [queueChain] at h
  split at h
  · cases h
  · next hstart =>
    obtain ⟨hsame,hblocks,hsound⟩ := reworkLinks_blocks chain w' hmade.sound
    simp only at h
    split at h
    · next hok =>
      obtain ⟨r,hr,heq⟩ := map_eq_some_iff.mp h
      obtain ⟨-,heq⟩ := Prod.mk.inj heq
      obtain ⟨hres,rfl⟩ := Prod.mk.inj heq
      obtain ⟨rfl,-⟩ := List.cons.inj hres
      obtain ⟨⟨w1,hw1,hw⟩,howned,-⟩ := adaptorRun_keeps e hr hsound
      obtain ⟨calls,hlog,hcalls⟩ := hmade.log
      refine ⟨⟨fun x hx => ?_,calls ++ [.change e.hardware],?_,fun c hc b hf => ?_⟩,rfl,?_⟩
      · rw [howned] at hx
        have hb := List.mem_map_of_mem (f := Wipe.Buffer.block) hx
        rw [hblocks] at hb
        obtain ⟨y,hy,hyx⟩ := List.mem_map.mp hb
        rw [← hyx]
        exact hmade.owned y hy
      · rw [hw,← List.append_assoc,← hlog,← hsame.log,← hw1.log]
        rfl
      · rcases mem_append.mp hc with hc | hc
        · exact hcalls c hc b hf
        · rw [mem_singleton.mp hc] at hf
          exact hf
      · rw [sahDescriptorChainExecute,if_neg hstart]
        simp only
        rw [if_pos hok,adaptorExecDescriptorChain,hr]
        cases e.saveDescChain <;> rfl
    · have hnil := congrArg (fun r => r.2.1) (Option.some.inj h)
      cases hnil

lemma freedOnce_of {log before after : List MemCall} {b : ℕ × Bool} {off : ℕ} (h : log = before ++ .free b off :: after)
  (hb : ∀ c ∈ before, ¬ c.Frees b) (ha : ∀ c ∈ after, ¬ c.Frees b) : FreedOnce log b :=
  ⟨before, off, after, h, fun c hc => (mem_append.mp hc).elim (hb c) (ha c)⟩

def cleaned (e : Exec) (chain' : List Desc) (w : World) : World :=
  if e.saveDescChain then w else sahDescriptorChainDestroy chain' w

def cleanCalls (e : Exec) (chain' : List Desc) : List MemCall :=
  if e.saveDescChain then [] else (owned (chainLinks chain')).flatMap Wipe.wipe

lemma cleaned_log (e : Exec) (chain' : List Desc) (w : World) :
  (cleaned e chain' w).log = w.log ++ cleanCalls e chain' := by
  rw [cleaned,cleanCalls]
  split
  · exact (append_nil _).symm
  · exact destroyChain_log chain' w

lemma not_frees_cleaned {b : ℕ × Bool} (h : ∀ x ∈ owned (chainLinks chain'), x.block ≠ b) :
  ∀ c ∈ cleanCalls e chain', ¬ c.Frees b := by
  rw [cleanCalls]
  split
  · exact fun c hc => absurd hc not_mem_nil
  · exact not_frees_wiped h

lemma differs_cleaned {p q : Ptr} (hp : ∀ x ∈ owned (chainLinks chain'), x.block ≠ p.block)
  (hq : ∀ x ∈ owned (chainLinks chain'), x.block ≠ q.block) {n : ℕ} :
  differs (Wipe.runAll (cleaned e chain' w).log m) p q n = differs (Wipe.runAll w.log m) p q n := by
  rw [cleaned_log,Wipe.runAll_append,cleanCalls]
  split
  · rfl
  · rw [Bool.eq_iff_iff,← not_iff_not,Bool.not_eq_true,Bool.not_eq_true,differs_eq_false,differs_eq_false,
      bytesAt_wiped hp,bytesAt_wiped hq]

lemma Over.not_frees (h : Over w chain' calced wN) (hw : Settled req w)
  (hcalced : w.buffers ≤ calced.buffer) : ∀ c ∈ wN.log, ¬ c.Frees calced.block := by
  obtain ⟨calls,hlog,hcalls⟩ := h.log
  intro c hc hf
  rw [hlog] at hc
  rcases mem_append.mp hc with hc | hc
  · exact absurd (hw.frees c hc _ hf) (not_lt.mpr hcalced)
  · exact hcalls c hc _ hf

def blockingCode (req : CcmRequest) (e : Exec) (memory : Mem) (calced : Ptr) : Return :=
  if e.result = .ok ∧ differs memory calced req.authCtx.unencryptedMac req.authCtx.macLength.toNat = true then .authFailed
  else e.result

def deliveredCode (req : CcmRequest) (e : Exec) (memory : Mem) (calced : Ptr) : Return :=
  if differs memory calced req.authCtx.unencryptedMac req.authCtx.macLength.toNat = true then .authFailed else e.result

lemma codes_agree_iff (memory : Mem) : deliveredCode req e memory calced = blockingCode req e memory calced ↔
  e.result = .ok ∨ e.result = .authFailed ∨
    bytesAt memory calced req.authCtx.macLength.toNat =
      bytesAt memory req.authCtx.unencryptedMac req.authCtx.macLength.toNat := by
  rw [← differs_eq_false,deliveredCode,blockingCode]
  cases differs memory calced req.authCtx.unencryptedMac req.authCtx.macLength.toNat with
  | false => simp
  | true =>
    by_cases hok : e.result = .ok
    · simp [hok]
    · simp [hok,eq_comm]

/-- **The verdict.** -/
theorem verdict_iff {uco : Uco} {res : Result} {wN : World} (hw : Settled req w)
  (hn : fslShwAuthDecrypt st req { uco with blockingMode := false } e m w = some (.ok, [res], wN)) :
  ∃ calced codeB wB res' wD, res.out1 = some calced ∧
    fslShwAuthDecrypt st req { uco with blockingMode := true, callbackMode := false } e m w = some (codeB, [], wB) ∧
    sahPostprocessResults m [res] wN = ([res'], wD) ∧
    (SameVerdict req e (Wipe.runAll wN.log m) calced codeB res'.code wB.log wD.log ↔
      e.result = .ok ∨ e.result = .authFailed ∨
        bytesAt (Wipe.runAll wN.log m) calced req.authCtx.macLength.toNat =
          bytesAt (Wipe.runAll wN.log m) req.authCtx.unencryptedMac req.authCtx.macLength.toNat) := by
  rw [fslShwAuthDecrypt] at hn
  split at hn
  · next hbad =>
    obtain ⟨hstatus,-⟩ := Prod.mk.inj (Option.some.inj hn)
    exact absurd hstatus hbad
  · next hvalid =>
    split at hn
    · next status w' hbuild =>
      have hnil := congrArg (fun r => r.2.1) (Option.some.inj hn)
      cases hnil
    · next chain calced w' hbuild =>
      rw [if_neg (by simp)] at hn
      have hmade := authDecryptChain_made hbuild
      obtain ⟨hover,hres,hexec⟩ := queue_over hmade hn
      -- Destroying the chain wipes and frees other buffers than the two of the MACs.
      have hcalced : ∀ x ∈ owned (chainLinks res.chain), x.block ≠ calced.block := by
        intro x hx heq
        have := (hover.owned x hx).2
        rw [heq] at this
        exact lt_irrefl _ this
      have hmac : ∀ x ∈ owned (chainLinks res.chain), x.block ≠ req.authCtx.unencryptedMac.block := by
        intro x hx heq
        have := (hover.owned x hx).1
        rw [heq] at this
        exact absurd hw.mac (not_lt.mpr this)
      have hfrees : ∀ c ∈ wN.log, ¬ c.Frees calced.block := hover.not_frees hw hmade.calced
      refine ⟨calced,blockingCode req e (Wipe.runAll wN.log m) calced,
        (cleaned e res.chain wN).emit [.free calced.block calced.offset],
        { res with code := deliveredCode req e (Wipe.runAll wN.log m) calced },
        cleaned e res.chain (wN.emit [.free calced.block calced.offset]),by rw [hres],?_,?_,?_⟩
      · rw [fslShwAuthDecrypt,if_neg (not_not.mpr (validate_blocking (not_not.mp hvalid))),hbuild]
        simp only [if_true]
        have hcode : blockingCode req e (Wipe.runAll wN.log m) calced =
            blockingCode req e (Wipe.runAll (cleaned e res.chain wN).log m) calced := by
          rw [blockingCode,blockingCode,differs_cleaned hcalced hmac]
        rw [hexec,hcode]
        rfl
      · rw [hres,sahPostprocessResults]
        have hlen : (req.authCtx.macLength.setWidth 32).toNat = req.authCtx.macLength.toNat := by
          rw [BitVec.toNat_setWidth]
          omega
        simp only [hlen]
        rfl
      · rw [← codes_agree_iff]
        refine ⟨fun h => h.same,fun h => ⟨h,fun hok => ?_,?_,?_⟩⟩
        · simp only [deliveredCode] at hok
          split at hok
          · cases hok
          · next hsame => exact ⟨hok,differs_eq_false.mp (Bool.eq_false_iff.mpr hsame)⟩
        · refine freedOnce_of rfl (fun c hc => ?_) fun c hc => absurd hc not_mem_nil
          rw [cleaned_log] at hc
          exact (mem_append.mp hc).elim (hfrees c) fun hc => not_frees_cleaned hcalced c hc
        · rw [cleaned_log]
          refine freedOnce_of (List.append_assoc _ _ _) hfrees fun c hc => ?_
          exact not_frees_cleaned hcalced c hc

def Exec.ended (hardware : Mem → Mem) (result : Return) : Exec :=
  ⟨true, false, false, fun a => a, fun _ _ => none, hardware, result⟩

def onesAtCalced (m : Mem) : Mem := fun b i => if b = (sampleWorld.buffers, false) then 1#8 else m b i

def sampleUco : Uco := ⟨3, false, false, true, 1#32, false⟩

lemma exists_queued {x : Option (Return × List Result × World)}
  (h : x.map (fun r => (r.1, r.2.1.length)) = some (.ok, 1)) : ∃ res w, x = some (.ok, [res], w) := by
  obtain ⟨⟨status,results,w⟩,rfl,hr⟩ := map_eq_some_iff.mp h
  obtain ⟨rfl,hlen⟩ := Prod.mk.inj hr
  obtain ⟨res,rfl⟩ := length_eq_one_iff.mp hlen
  exact ⟨res,w,rfl⟩

theorem verdict_success : ∃ res wN,
  fslShwAuthDecrypt sampleStatics (sampleRequest 0#32) { sampleUco with blockingMode := false } (.ended id .ok)
    (fun _ _ => 0#8) sampleWorld = some (.ok, [res], wN) ∧
  ∃ calced codeB wB res' wD, res.out1 = some calced ∧
    fslShwAuthDecrypt sampleStatics (sampleRequest 0#32) { sampleUco with blockingMode := true, callbackMode := false }
      (.ended id .ok) (fun _ _ => 0#8) sampleWorld = some (codeB, [], wB) ∧
    sahPostprocessResults (fun _ _ => 0#8) [res] wN = ([res'], wD) ∧
    (SameVerdict (sampleRequest 0#32) (.ended id .ok) (Wipe.runAll wN.log fun _ _ => 0#8) calced codeB res'.code wB.log
        wD.log ↔
      Return.ok = .ok ∨ Return.ok = .authFailed ∨
        bytesAt (Wipe.runAll wN.log fun _ _ => 0#8) calced 8 =
          bytesAt (Wipe.runAll wN.log fun _ _ => 0#8) (userBuffer 2) 8) := by
  obtain ⟨res,wN,h⟩ := exists_queued (x := fslShwAuthDecrypt sampleStatics (sampleRequest 0#32)
    { sampleUco with blockingMode := false } (.ended id .ok) (fun _ _ => 0#8) sampleWorld) (by decide +kernel)
  exact ⟨res,wN,h,verdict_iff ⟨show 2 < 11 by decide,fun _ hc => absurd hc not_mem_nil⟩ h⟩

/-- A run that ends with an internal error after it has written another MAC. -/
theorem verdicts_differ :
  (fslShwAuthDecrypt sampleStatics (sampleRequest 0#32) { sampleUco with blockingMode := true }
    (.ended onesAtCalced .internalError) (fun _ _ => 0#8) sampleWorld).map (fun r => r.1) = some .internalError ∧
  (fslShwAuthDecrypt sampleStatics (sampleRequest 0#32) { sampleUco with blockingMode := false }
    (.ended onesAtCalced .internalError) (fun _ _ => 0#8) sampleWorld).map
      (fun r => (r.1, (sahPostprocessResults (fun _ _ => 0#8) r.2.1 r.2.2).1.map Result.code)) =
    some (.ok, [.authFailed]) := by
  decide +kernel

end

end Mx27.Shw
