/-
# The firmware update

`__elan_update_firmware` of `elan_i2c_core.c` as a program of transport operations, with
every read of the firmware file and every division checked: what C leaves undefined is a
result of its own here.

A `Plan` is an update that is under way, `Progress` what the transport operations have
achieved of it.  Whatever the transport answers, a page is written only after a successful
`prepare_fw_update`, the pages go out in order with none left out and none written twice, and
an update that succeeds has written them all and read their sum back.

The two transports implement this world on their buses (`I2cTransport`, `SmbusTransport`).
-/
import ElanGuardian.DriverOps
import ElanGuardian.TransportOps

open ElanCore Transport TransportOps Dialogue Prog
open Driver (FwInfo le16 pageChecksum etpIapStartOffset etpRetries)

namespace FirmwareUpdate

/-! ## The program -/

/-- Why `__elan_update_firmware` ends without a success. -/
inductive Stop where
  | status (error : ℤ)
  /-- it has read behind the end of the file -/
  | outOfBounds
  /-- it has divided by a page size of zero -/
  | divideByZero
  deriving DecidableEq, Repr

/-- `fw->data[k]`. -/
def readByte (fw : List UInt8) (k : ℕ) : Except Stop UInt8 :=
  match fw[k]? with
  | some byte => .ok byte
  | none => .error .outOfBounds

/-- `get_unaligned_le16(&fw->data[k])`. -/
def getUnalignedLe16 (fw : List UInt8) (k : ℕ) : Except Stop UInt16 := do
  let low ← readByte fw k
  let high ← readByte fw (k + 1)
  pure (wordOf low high)

/-- `for (j = 0; j < fw_page_size; j += 2)`, for the words that remain from byte `k` on. -/
def addWords (fw : List UInt8) (k : ℕ) (checksum : UInt16) : ℕ → Except Stop UInt16
  | 0 => pure checksum
  | remaining + 1 => do
    let word ← getUnalignedLe16 fw k
    addWords fw (k + 2) (checksum + word) remaining

/-- What C computes without a call. -/
def computed {α : Type} (r : Except Stop α) : Dialogue Ops (Except Stop α) := pure r

/-- A call whose error ends the update. -/
def stopping {α : Type} (p : Dialogue Ops (Except ℤ α)) : Dialogue Ops (Except Stop α) := do
  match ← p with
  | .error error => pure (.error (.status error))
  | .ok a => pure (.ok a)

/-- `elan_write_fw_block`. -/
def elanWriteFwBlock (pageSize : UInt16) (page : List UInt8) (checksum : UInt16) (idx : ℕ) :
    Dialogue Ops (Except ℤ Unit) :=
  Dialogue.retry (call (I := Ops) (.writeFwBlock pageSize page checksum idx)) etpRetries

/-- The page loop, from page `i` on; it ends with the sum of the checksums. -/
def writePages (fw : List UInt8) (pageSize : UInt16) (i : ℕ) (swChecksum : UInt16) :
    ℕ → Dialogue Ops (Except Stop UInt16)
  | 0 => pure (.ok swChecksum)
  | remaining + 1 =>
    (computed (addWords fw (i * pageSize.toNat) 0 ((pageSize.toNat + 1) / 2))).orReturn
      fun checksum =>
        (stopping (elanWriteFwBlock pageSize (pageBytes fw pageSize i) checksum i)).orReturn
          fun _ => writePages fw pageSize (i + 1) (swChecksum + checksum) remaining

/-- `boot_page_count = (iap_start_addr * 2) / data->fw_page_size`, stored in a `u16`. -/
def bootPageCount (iapStartAddr pageSize : UInt16) : Except Stop UInt16 :=
  if pageSize = 0 then .error .divideByZero
  else .ok (UInt16.ofNat (iapStartAddr.toNat * 2 / pageSize.toNat))

/-- The end of the update: the controller's own checksum against the sum. -/
def verifyChecksum (swChecksum : UInt16) : Dialogue Ops (Except Stop Unit) :=
  (stopping (call (I := Ops) .finishFwUpdate)).orReturn fun _ =>
    (stopping (call (I := Ops) (.getChecksum true))).orReturn fun fwChecksum =>
      if swChecksum ≠ fwChecksum then pure (.error (.status eio)) else pure (.ok ())

/-- `__elan_update_firmware`. -/
def elanUpdateFirmwareOnce (fw : List UInt8) (icType : UInt16) (iapVersion : UInt8)
    (info : FwInfo) : Dialogue Ops (Except Stop Unit) :=
  (stopping (call (I := Ops) (.prepareFwUpdate icType iapVersion info.pageSize))).orReturn
    fun _ => (computed (getUnalignedLe16 fw etpIapStartOffset)).orReturn fun iapStartAddr =>
      (computed (bootPageCount iapStartAddr info.pageSize)).orReturn fun bootPageCount =>
        (writePages fw info.pageSize bootPageCount.toNat 0
          (info.validpageCount.toNat - bootPageCount.toNat)).orReturn verifyChecksum

/-! ## Plans and their progress -/

/-- One call of `write_fw_block`. -/
structure Page where
  idx : ℕ
  bytes : List UInt8
  checksum : UInt16
  deriving DecidableEq, Repr

/-- An update: a firmware file, and what the driver knows about the controller. -/
structure Plan where
  fw : List UInt8
  icType : UInt16
  iapVersion : UInt8
  info : FwInfo

namespace Plan

/-- The first page behind the boot code. -/
def boot (p : Plan) : ℕ :=
  (UInt16.ofNat ((le16 p.fw etpIapStartOffset).toNat * 2 / p.info.pageSize.toNat)).toNat

def page (p : Plan) (idx : ℕ) : Page :=
  ⟨idx, pageBytes p.fw p.info.pageSize idx,
    pageChecksum p.fw (idx * p.info.pageSize.toNat) p.info.pageSize.toNat⟩

/-- The pages to be written. -/
def pages (p : Plan) : List Page :=
  (List.range' p.boot (p.info.validpageCount.toNat - p.boot)).map p.page

/-- The 16-bit sum that the controller has to confirm. -/
def checksum (p : Plan) : UInt16 := (p.pages.map Page.checksum).foldl (· + ·) 0

end Plan

inductive Phase where
  | idle
  /-- after a successful `prepare_fw_update` -/
  | prepared
  /-- after a successful `finish_fw_update` -/
  | finished
  /-- after either of them has failed -/
  | failed
  deriving DecidableEq, Repr

/-- What the transport operations have achieved. -/
structure Progress where
  phase : Phase
  /-- the pages that `write_fw_block` has written -/
  written : List Page
  /-- the checksum that the controller has reported -/
  reported : Option UInt16
  deriving DecidableEq, Repr

namespace Progress

def start : Progress := ⟨.idle, [], none⟩

/-- While no checksum has been reported, nothing is asked of one. -/
theorem forall_reported {s : Progress} (h : s.reported = none) (P : UInt16 → Prop) :
    ∀ checksum, s.reported = some checksum → P checksum := by
  intro checksum hreported
  rw [h] at hreported
  cases hreported

/-- An update is not at its start any more. -/
theorem ne_start_of_phase {s : Progress} (h : s.phase ≠ .idle) : s ≠ start := by
  rintro rfl
  exact h rfl

/-- The progress after a call. -/
def after (s : Progress) : (op : Op) → op.Answer → Progress
  | .prepareFwUpdate _ _ _, .ok _ => { s with phase := .prepared }
  | .prepareFwUpdate _ _ _, .error _ => { s with phase := .failed }
  | .writeFwBlock _ page checksum idx, .ok _ =>
    { s with written := s.written ++ [⟨idx, page, checksum⟩] }
  | .finishFwUpdate, .ok _ => { s with phase := .finished }
  | .finishFwUpdate, .error _ => { s with phase := .failed }
  | .getChecksum true, .ok checksum => { s with reported := some checksum }
  | _, _ => s

end Progress

/-- The transport may answer anything. -/
def world : World Progress Ops := fun s op answer s' => s' = s.after op answer

/-- The call that is next in the plan. -/
def Plan.Expects (p : Plan) (s : Progress) : Op → Prop
  | .prepareFwUpdate icType iapVersion fwPageSize =>
    icType = p.icType ∧ iapVersion = p.iapVersion ∧ fwPageSize = p.info.pageSize
      ∧ s = .start
  | .writeFwBlock fwPageSize page checksum idx =>
    fwPageSize = p.info.pageSize ∧ page.length = fwPageSize.toNat ∧ s.phase = .prepared
      ∧ s.written ++ [⟨idx, page, checksum⟩] <+: p.pages
  | .finishFwUpdate => s.phase = .prepared ∧ s.written = p.pages
  | .getChecksum iap => iap = true ∧ s.phase = .finished ∧ s.written = p.pages
  | _ => False

/-- How far an update has come when it ends. -/
def Plan.Ended (p : Plan) : Except Stop Unit → Progress → Prop
  | .ok _, s => s.phase = .finished ∧ s.written = p.pages ∧ s.reported = some p.checksum
  | .error _, s => s.written <+: p.pages

/-! ## The reads of the file -/

section Reads

variable {fw : List UInt8} {k : ℕ}

/-- A byte is read just if the file has it. -/
theorem readByte_eq (fw : List UInt8) (k : ℕ) :
    readByte fw k = if k < fw.length then .ok (fw.getD k 0) else .error .outOfBounds := by
  rw [readByte]
  split_ifs with h
  · rw [List.getD_eq_getElem?_getD, List.getElem?_eq_getElem h]
    rfl
  · rw [List.getElem?_eq_none (Nat.le_of_not_lt h)]

/-- A word is read just if the file has both its bytes. -/
theorem getUnalignedLe16_eq (fw : List UInt8) (k : ℕ) :
    getUnalignedLe16 fw k
      = if k + 1 < fw.length then .ok (le16 fw k) else .error .outOfBounds := by
  rw [getUnalignedLe16, readByte_eq, readByte_eq]
  by_cases h : k + 1 < fw.length
  · rw [if_pos h, if_pos h, if_pos (by omega)]
    rfl
  · rw [if_neg h, if_neg h]
    split_ifs <;> rfl

/-- The words of a loop, first and rest. -/
theorem map_range_le16 (fw : List UInt8) (k n : ℕ) :
    (List.range (n + 1)).map (fun j => le16 fw (k + 2 * j))
      = le16 fw k :: (List.range n).map fun j => le16 fw (k + 2 + 2 * j) := by
  rw [List.range_succ_eq_map, List.map_cons, List.map_map]
  refine congrArg₂ List.cons rfl (List.map_congr_left fun j _ => ?_)
  show le16 fw (k + 2 * (j + 1)) = _
  congr 1
  omega

/-- **The sum of some words is computed just if they are all in the file.** -/
theorem addWords_eq (fw : List UInt8) (k : ℕ) (checksum : UInt16) (n : ℕ) :
    addWords fw k checksum n
      = if n = 0 ∨ k + 2 * n ≤ fw.length then
          .ok (((List.range n).map fun j => le16 fw (k + 2 * j)).foldl (· + ·) checksum)
        else .error .outOfBounds := by
  induction n generalizing k checksum with
  | zero => rfl
  | succ n ih =>
    rw [addWords, getUnalignedLe16_eq, map_range_le16, List.foldl_cons]
    by_cases h : k + 1 < fw.length
    · rw [if_pos h]
      show addWords fw (k + 2) (checksum + le16 fw k) n = _
      rw [ih]
      exact if_congr (by omega) rfl rfl
    · rw [if_neg h, if_neg (by omega)]
      rfl

/-- A page whose words are all in the file is there as a whole. -/
theorem pageBytes_length {pageSize : UInt16} {i : ℕ}
    (h : (pageSize.toNat + 1) / 2 = 0
      ∨ i * pageSize.toNat + 2 * ((pageSize.toNat + 1) / 2) ≤ fw.length) :
    (pageBytes fw pageSize i).length = pageSize.toNat := by
  rw [pageBytes, List.length_take, List.length_drop]
  omega

end Reads

/-! ## The world of the transport operations -/

section Runs

variable {α β σ : Type} {p : Plan}

/-- A call whose error ends the update, and what comes after it. -/
theorem always_stopping {w : World σ Ops} {G : σ → Op → Prop} {x : Dialogue Ops (Except ℤ α)}
    {f : α → Dialogue Ops (Except Stop β)} {R : Except Stop β → σ → Prop} {s : σ}
    (h : Always w G (fun r t => match r with
      | .error e => R (.error (.status e)) t
      | .ok a => Always w G R (f a) t) x s) :
    Always w G R ((stopping x).orReturn f) s := by
  refine always_bind.mpr (h.bind fun r t hr => ?_)
  cases r with
  | error e => exact hr
  | ok a => exact hr

/-- A value computed without a call, and what comes after it. -/
theorem always_computed {w : World σ Ops} {G : σ → Op → Prop} {r : Except Stop α}
    {f : α → Dialogue Ops (Except Stop β)} {R : Except Stop β → σ → Prop} {s : σ}
    (herr : ∀ e, R (.error e) s) (hok : ∀ a, r = .ok a → Always w G R (f a) s) :
    Always w G R ((computed r).orReturn f) s := by
  cases r with
  | error e => exact herr e
  | ok a => exact hok a rfl

/-- One call, in the world that answers anything. -/
theorem call_always {op : Op} {Q : op.Answer → Progress → Prop} {s : Progress}
    (hop : p.Expects s op) (h : ∀ answer, Q answer (s.after op answer)) :
    Always world p.Expects Q (call (I := Ops) op) s := by
  refine ⟨hop, ?_⟩
  rintro answer _ rfl
  exact h answer

/-- An update that fails before the first page has written none. -/
theorem ended_of_none {e : Stop} {s : Progress} (h : s.written = []) : p.Ended (.error e) s := by
  rw [Plan.Ended, h]
  exact List.nil_prefix

/-- One that fails after the last page has written them all. -/
theorem ended_of_all {e : Stop} {s : Progress} (h : s.written = p.pages) :
    p.Ended (.error e) s := by
  rw [Plan.Ended, h]

/-- The controller takes pages, and has taken these. -/
def Writing (done : List Page) (s : Progress) : Prop := s.phase = .prepared ∧ s.written = done

/-- A page that may be retried is written at most once. -/
theorem elanWriteFwBlock_always {done : List Page} {page : Page}
    (hlen : page.bytes.length = p.info.pageSize.toNat) (hnext : done ++ [page] <+: p.pages)
    {s : Progress} (hs : Writing done s) :
    Always world p.Expects
      (fun r t => match r with
        | .ok _ => Writing (done ++ [page]) t
        | .error _ => Writing done t)
      (elanWriteFwBlock p.info.pageSize page.bytes page.checksum page.idx) s := by
  refine Always.retry (K := Writing done) (fun s hs => ?_) (fun _ _ h => h) etpRetries hs
  refine call_always ⟨rfl, hlen, hs.1, by rw [hs.2]; exact hnext⟩ fun answer => ?_
  cases answer with
  | error e => exact hs
  | ok _ => exact ⟨hs.1, by rw [← hs.2]; rfl⟩

/-- **The page loop.**  With the pages before `i` written, the loop writes the others in
order, and adds up their checksums. -/
theorem writePages_always {done : List Page} {i n : ℕ} {swChecksum : UInt16}
    (hrest : p.pages = done ++ (List.range' i n).map p.page) {s : Progress}
    (hs : Writing done s) :
    Always world p.Expects
      (fun r t => match r with
        | .ok sum => Writing p.pages t
          ∧ sum = (((List.range' i n).map p.page).map Page.checksum).foldl (· + ·) swChecksum
        | .error _ => t.written <+: p.pages)
      (writePages p.fw p.info.pageSize i swChecksum n) s := by
  induction n generalizing i done swChecksum s with
  | zero =>
    rw [List.range'_zero, List.map_nil, List.append_nil] at hrest
    exact ⟨by rw [hrest]; exact hs, rfl⟩
  | succ n ih =>
    rw [List.range'_succ, List.map_cons] at hrest
    have hdone : s.written <+: p.pages := hs.2 ▸ ⟨_, hrest.symm⟩
    have hnext : p.pages = (done ++ [p.page i]) ++ (List.range' (i + 1) n).map p.page := by
      rw [hrest, List.append_assoc]
      rfl
    rw [writePages, addWords_eq]
    refine always_computed (fun _ => hdone) fun checksum hsum => ?_
    split_ifs at hsum with hfile
    obtain rfl : (p.page i).checksum = checksum := Except.ok.inj hsum
    have hlen : (p.page i).bytes.length = p.info.pageSize.toNat := pageBytes_length hfile
    refine always_stopping ((elanWriteFwBlock_always hlen ⟨_, hnext.symm⟩ hs).mono
      (fun _ _ h => h) fun r t ht => ?_)
    cases r with
    | error e => exact ht.2 ▸ ⟨_, hrest.symm⟩
    | ok _ => exact ih hnext ht

/-- The end of the update, with all pages written. -/
theorem verifyChecksum_always {s : Progress} (hs : Writing p.pages s) :
    Always world p.Expects p.Ended (verifyChecksum p.checksum) s := by
  refine always_stopping (call_always hs fun answer => ?_)
  cases answer with
  | error e => exact ended_of_all hs.2
  | ok _ =>
    refine always_stopping (call_always ⟨rfl, rfl, hs.2⟩ fun answer => ?_)
    cases answer with
    | error e => exact ended_of_all hs.2
    | ok fwChecksum =>
      show Always _ _ _ (if p.checksum ≠ fwChecksum then _ else _) _
      split_ifs with hdiff
      · exact ended_of_all hs.2
      · rw [not_not] at hdiff
        exact ⟨rfl, hs.2, by rw [hdiff]; rfl⟩

/-- **An update follows its plan**, whatever the transport answers. -/
theorem elanUpdateFirmwareOnce_follows (p : Plan) :
    Always world p.Expects p.Ended
      (elanUpdateFirmwareOnce p.fw p.icType p.iapVersion p.info) .start := by
  refine always_stopping (call_always ⟨rfl, rfl, rfl, rfl⟩ fun answer => ?_)
  cases answer with
  | error e => exact ended_of_none rfl
  | ok _ =>
    have hs : Writing [] (Progress.start.after
        (.prepareFwUpdate p.icType p.iapVersion p.info.pageSize) (.ok ())) := ⟨rfl, rfl⟩
    rw [getUnalignedLe16_eq]
    refine always_computed (fun _ => ended_of_none rfl) fun iapStartAddr hstart => ?_
    split_ifs at hstart
    obtain rfl : le16 p.fw etpIapStartOffset = iapStartAddr := Except.ok.inj hstart
    refine always_computed (fun _ => ended_of_none rfl) fun boot hboot => ?_
    have hboot : boot.toNat = p.boot := by
      rw [bootPageCount] at hboot
      split_ifs at hboot
      rw [← Except.ok.inj hboot]
      rfl
    rw [hboot]
    refine Always.orReturn (writePages_always rfl hs) (fun _ _ h => h) ?_
    rintro _ t ⟨ht, rfl⟩
    exact verifyChecksum_always ht

end Runs

/-! ## The image -/

section Image

variable {fw : List UInt8}

/-- The 16-bit sum of `n` words. -/
def wordSum (fw : List UInt8) (k n : ℕ) : UInt16 :=
  ((List.range n).map fun j => le16 fw (k + 2 * j)).foldl (· + ·) 0

/-- The sum of two lists of words. -/
theorem foldl_add_append (l m : List UInt16) :
    (l ++ m).foldl (· + ·) 0 = l.foldl (· + ·) 0 + m.foldl (· + ·) 0 := by
  have h : m.foldl (· + ·) (l.foldl (· + ·) 0 + 0) = l.foldl (· + ·) 0 + m.foldl (· + ·) 0 :=
    List.foldl_assoc
  rw [List.foldl_append, ← h, UInt16.add_zero]

/-- The sum of the words in a range, in two parts. -/
theorem wordSum_add (fw : List UInt8) (k a b : ℕ) :
    wordSum fw k (a + b) = wordSum fw k a + wordSum fw (k + 2 * a) b := by
  rw [wordSum, List.range_add, List.map_append, foldl_add_append, List.map_map]
  refine congrArg₂ (· + ·) rfl (congrArg _ (List.map_congr_left fun j _ => ?_))
  show le16 fw (k + 2 * (a + j)) = _
  congr 1
  omega

/-- The checksums of consecutive pages add up to the sum of their words. -/
theorem foldl_pageChecksum (fw : List UInt8) (words i n : ℕ) :
    ((List.range' i n).map fun idx => wordSum fw (idx * (2 * words)) words).foldl (· + ·) 0
      = wordSum fw (i * (2 * words)) (n * words) := by
  induction n generalizing i with
  | zero => rw [Nat.zero_mul]; rfl
  | succ n ih =>
    have hwords : (n + 1) * words = words + n * words := by rw [Nat.succ_mul, Nat.add_comm]
    have hnext : i * (2 * words) + 2 * words = (i + 1) * (2 * words) :=
      (Nat.succ_mul i (2 * words)).symm
    rw [List.range'_succ, List.map_cons, ← List.singleton_append, foldl_add_append, ih, hwords,
      wordSum_add, hnext]
    exact congrArg (· + _) (UInt16.zero_add _)

/-- Consecutive pages are a consecutive part of the file. -/
theorem flatMap_take_drop (fw : List UInt8) (size i n : ℕ) :
    ((List.range' i n).flatMap fun idx => (fw.drop (idx * size)).take size)
      = (fw.drop (i * size)).take (n * size) := by
  induction n generalizing i with
  | zero => rw [Nat.zero_mul]; rfl
  | succ n ih =>
    rw [List.range'_succ, List.flatMap_cons, ih, Nat.succ_mul, Nat.succ_mul,
      Nat.add_comm (n * size), List.take_add, List.drop_drop]

namespace Plan

variable {p : Plan}

/-- The part of the file behind the boot code. -/
def image (p : Plan) : List UInt8 :=
  (p.fw.drop (p.boot * p.info.pageSize.toNat)).take
    ((p.info.validpageCount.toNat - p.boot) * p.info.pageSize.toNat)

/-- The pages are the image, cut into pieces. -/
theorem flatMap_pages (p : Plan) : p.pages.flatMap Page.bytes = p.image := by
  rw [pages, List.flatMap_map, image, ← flatMap_take_drop]
  rfl

/-- **The controller confirms the sum of all words of the image.** -/
theorem checksum_eq (heven : p.info.pageSize.toNat % 2 = 0) :
    p.checksum = wordSum p.fw (p.boot * p.info.pageSize.toNat)
      ((p.info.validpageCount.toNat - p.boot) * (p.info.pageSize.toNat / 2)) := by
  have hsize : p.info.pageSize.toNat = 2 * (p.info.pageSize.toNat / 2) := by omega
  have hpage (idx : ℕ) : (p.page idx).checksum
      = wordSum p.fw (idx * (2 * (p.info.pageSize.toNat / 2))) (p.info.pageSize.toNat / 2) := by
    rw [← hsize]
    show wordSum p.fw _ ((p.info.pageSize.toNat + 1) / 2) = _
    congr 1
    omega
  have hmap (l : List ℕ) : l.map (Page.checksum ∘ p.page)
      = l.map fun idx => wordSum p.fw (idx * (2 * (p.info.pageSize.toNat / 2)))
        (p.info.pageSize.toNat / 2) := List.map_congr_left fun idx _ => hpage idx
  rw [checksum, pages, List.map_map, hmap, foldl_pageChecksum, ← hsize]

end Plan

end Image

/-! ## Undefined behaviour -/

/-- A result that C defines. -/
def Defined {α : Type} (r : Except Stop α) : Prop :=
  r ≠ .error .outOfBounds ∧ r ≠ .error .divideByZero

/-- Everything that the update may read is in the file, and the page size is not zero. -/
structure Plan.InFile (p : Plan) : Prop where
  startAddr : etpIapStartOffset + 1 < p.fw.length
  pageSize : p.info.pageSize ≠ 0
  pages : ∀ idx, p.boot ≤ idx → idx < p.info.validpageCount.toNat →
    idx * p.info.pageSize.toNat + 2 * ((p.info.pageSize.toNat + 1) / 2) ≤ p.fw.length

section Definedness

variable {α β : Type} {p : Plan}

/-- The pages of such a plan are all there. -/
theorem Plan.InFile.page_length (h : p.InFile) {page : Page} (hpage : page ∈ p.pages) :
    page.bytes.length = p.info.pageSize.toNat := by
  obtain ⟨idx, hidx, rfl⟩ := List.mem_map.mp hpage
  rw [List.mem_range'_1] at hidx
  exact pageBytes_length (Or.inr (h.pages idx hidx.1 (by omega)))

/-- And so is the image. -/
theorem Plan.InFile.image_length (h : p.InFile) :
    p.image.length = p.pages.length * p.info.pageSize.toNat := by
  have hsum : (p.pages.map fun page => page.bytes.length).sum
      = (p.pages.map fun _ => p.info.pageSize.toNat).sum :=
    congrArg List.sum (List.map_congr_left fun page hpage => h.page_length hpage)
  rw [← p.flatMap_pages, List.length_flatMap, hsum, List.map_const', List.sum_replicate]
  rfl

theorem defined_ok {a : α} : Defined (.ok a) := ⟨nofun, nofun⟩

/-- An error of the transport is no fault of the program. -/
theorem defined_status {error : ℤ} : Defined (.error (.status error) : Except Stop α) :=
  ⟨nofun, nofun⟩

/-- A call is defined; what comes after it has to be. -/
theorem yields_stopping {x : Dialogue Ops (Except ℤ α)} {f : α → Dialogue Ops (Except Stop β)} :
    Yields Defined ((stopping x).orReturn f)
      ↔ Yields (fun r => ∀ a, r = .ok a → Yields Defined (f a)) x := by
  rw [Dialogue.orReturn, stopping, yields_bind, yields_bind]
  refine yields_congr fun r => ?_
  cases r with
  | error e => exact ⟨fun _ _ ha => (by cases ha), fun _ => defined_status⟩
  | ok a => exact ⟨fun h _ ha => Except.ok.inj ha ▸ h, fun h => h a rfl⟩

/-- A program is always defined just if its computation is, and what follows a result. -/
theorem yields_computed {r : Except Stop α} {f : α → Dialogue Ops (Except Stop β)} :
    Yields Defined ((computed r).orReturn f)
      ↔ Defined r ∧ ∀ a, r = .ok a → Yields Defined (f a) := by
  cases r with
  | error e =>
    exact ⟨fun h => ⟨⟨fun he => h.1 (by cases he; rfl), fun he => h.2 (by cases he; rfl)⟩, nofun⟩,
      fun h => ⟨fun he => h.1.1 (by cases he; rfl), fun he => h.1.2 (by cases he; rfl)⟩⟩
  | ok a => exact ⟨fun h => ⟨defined_ok, fun _ ha => Except.ok.inj ha ▸ h⟩, fun h => h.2 a rfl⟩

/-- A page may fail for good, or be written at some attempt. -/
theorem yields_elanWriteFwBlock {Q : Except ℤ Unit → Prop} {pageSize checksum : UInt16}
    {page : List UInt8} {idx : ℕ} :
    Yields Q (elanWriteFwBlock pageSize page checksum idx) ↔ ∀ r, Q r := by
  constructor
  · intro h r
    cases r with
    | ok _ => exact h (.ok ())
    | error e => exact h (.error e) (.error e) (.error e)
  · exact fun h r₁ => match r₁ with
      | .ok _ => h _
      | .error _ => fun r₂ => match r₂ with
        | .ok _ => h _
        | .error _ => fun r₃ => h r₃

/-- The page loop is defined just if its pages are in the file. -/
theorem yields_writePages {fw : List UInt8} {pageSize : UInt16} (hsize : pageSize ≠ 0)
    {f : UInt16 → Dialogue Ops (Except Stop Unit)} (hf : ∀ sum, Yields Defined (f sum)) (i : ℕ)
    (swChecksum : UInt16) (n : ℕ) :
    Yields Defined ((writePages fw pageSize i swChecksum n).orReturn f)
      ↔ ∀ idx, i ≤ idx → idx < i + n →
        idx * pageSize.toNat + 2 * ((pageSize.toNat + 1) / 2) ≤ fw.length := by
  have hpos : (pageSize.toNat + 1) / 2 ≠ 0 := by
    have : pageSize.toNat ≠ 0 := fun h => hsize (UInt16.toNat_inj.mp h)
    omega
  induction n generalizing i swChecksum with
  | zero => exact ⟨fun _ _ _ _ => by omega, fun _ => hf _⟩
  | succ n ih =>
    rw [writePages, orReturn_assoc, yields_computed, addWords_eq]
    simp only [hpos, false_or, orReturn_assoc, yields_stopping, yields_elanWriteFwBlock, ih]
    by_cases hfirst : i * pageSize.toNat + 2 * ((pageSize.toNat + 1) / 2) ≤ fw.length
    · rw [if_pos hfirst]
      constructor
      · rintro ⟨-, hrest⟩ idx hlo hhi
        rcases Nat.eq_or_lt_of_le hlo with rfl | hlt
        · exact hfirst
        · exact hrest _ rfl (.ok ()) () rfl idx hlt (by omega)
      · exact fun h => ⟨defined_ok, fun _ _ _ _ _ idx hlo hhi => h idx (by omega) (by omega)⟩
    · rw [if_neg hfirst]
      exact ⟨fun h => absurd rfl h.1.1, fun h => absurd (h i le_rfl (by omega)) hfirst⟩

/-- Comparing the checksums is defined in any case. -/
theorem yields_verifyChecksum (swChecksum : UInt16) :
    Yields Defined (verifyChecksum swChecksum) := by
  refine yields_stopping.mpr fun _ _ _ => yields_stopping.mpr fun r fwChecksum hr => ?_
  subst hr
  show Yields Defined (if swChecksum ≠ fwChecksum then _ else _)
  split_ifs
  · exact defined_status
  · exact defined_ok

/-- The pages that are written are those of the plan. -/
theorem Plan.boot_eq {p : Plan} (hsize : p.info.pageSize ≠ 0) :
    ∃ boot, bootPageCount (le16 p.fw etpIapStartOffset) p.info.pageSize = .ok boot
      ∧ boot.toNat = p.boot :=
  ⟨_, if_neg hsize, rfl⟩

/-- **The update is defined just for the plans that stay in the file**: then no answer of the
transport makes it read behind the end or divide by zero, and otherwise some answers do. -/
theorem elanUpdateFirmwareOnce_defined_iff (p : Plan) :
    Yields Defined (elanUpdateFirmwareOnce p.fw p.icType p.iapVersion p.info) ↔ p.InFile := by
  have hpages (boot : UInt16) (hboot : boot.toNat = p.boot) (hsize : p.info.pageSize ≠ 0) :
      Yields Defined ((writePages p.fw p.info.pageSize boot.toNat 0
          (p.info.validpageCount.toNat - boot.toNat)).orReturn verifyChecksum)
        ↔ ∀ idx, p.boot ≤ idx → idx < p.info.validpageCount.toNat →
          idx * p.info.pageSize.toNat + 2 * ((p.info.pageSize.toNat + 1) / 2) ≤ p.fw.length := by
    rw [yields_writePages hsize yields_verifyChecksum, hboot]
    exact forall_congr' fun idx => ⟨fun h hlo hhi => h hlo (by omega),
      fun h hlo hhi => h hlo (by omega)⟩
  constructor
  · intro h
    have hfile := yields_stopping.mp h (.ok ()) () rfl
    rw [yields_computed, getUnalignedLe16_eq] at hfile
    by_cases hstart : etpIapStartOffset + 1 < p.fw.length
    · rw [if_pos hstart] at hfile
      have hboot := hfile.2 _ rfl
      rw [yields_computed] at hboot
      by_cases hsize : p.info.pageSize = 0
      · rw [bootPageCount, if_pos hsize] at hboot
        exact absurd rfl hboot.1.2
      · obtain ⟨boot, heq, hnat⟩ := Plan.boot_eq hsize
        exact ⟨hstart, hsize, (hpages boot hnat hsize).mp (hboot.2 boot heq)⟩
    · rw [if_neg hstart] at hfile
      exact absurd rfl hfile.1.1
  · intro hfile
    obtain ⟨boot, heq, hnat⟩ := Plan.boot_eq hfile.pageSize
    refine yields_stopping.mpr fun _ _ _ => ?_
    rw [yields_computed, getUnalignedLe16_eq, if_pos hfile.startAddr]
    refine ⟨defined_ok, fun _ h => ?_⟩
    obtain rfl := Except.ok.inj h
    rw [yields_computed, heq]
    refine ⟨defined_ok, fun _ h => ?_⟩
    obtain rfl := Except.ok.inj h
    exact (hpages boot hnat hfile.pageSize).mpr hfile.pages

end Definedness

end FirmwareUpdate
