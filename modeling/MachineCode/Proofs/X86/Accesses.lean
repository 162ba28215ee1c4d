import MachineCode.Proofs.Execution
import MachineCode.Proofs.X86.AddressParts
import MachineCode.Proofs.X86.Entries
import MachineCode.Proofs.X86.Readings

/-!
Every access of the matcher and the encoder is in range. Beside each function stands a careful one
that reads the table through its entries, puts operands into an array of four, takes bytes from
opcodes and looks up prefixes; it has no outcome where something is not there. For the instructions
that names stand for, and all lists of operands, the careful functions come to the same results.
-/
namespace MachineCode

/-! ### Courses without a state -/

namespace Course

variable {ε α β : Type}

def demand (p : Prop) [Decidable p] : Course Unit ε Unit := need (guard p)

def attempt (c : Course Unit ε α) : Course Unit ε (Except ε α) := ExceptT.lift c.run

/-- A course without a state comes to a result. In particular, it finds all that it needs. -/
def ComesTo (c : Course Unit ε α) (x : Except ε α) : Prop := c.outcome () = some (x, ())

theorem comesTo_pure (a : α) : ComesTo (pure a : Course Unit ε α) (.ok a) := rfl

theorem comesTo_throw (e : ε) : ComesTo (throw e : Course Unit ε α) (.error e) := rfl

theorem comesTo_ofExcept (x : Except ε α) :
    ComesTo (MonadExcept.ofExcept x : Course Unit ε α) x :=
  outcome_ofExcept x ()

theorem comesTo_need {o : Option α} {a : α} (h : o = some a) :
    ComesTo (need o : Course Unit ε α) (.ok a) := by
  unfold ComesTo
  rw [outcome_need, h]
  rfl

theorem comesTo_demand {p : Prop} [Decidable p] (h : p) :
    ComesTo (demand p : Course Unit ε Unit) (.ok ()) :=
  comesTo_need (by rw [guard, if_pos h]; rfl)

namespace ComesTo

variable {c c' : Course Unit ε α} {f : α → Course Unit ε β} {x x' : Except ε α}

theorem bind {g : α → Except ε β} (hc : c.ComesTo x) (hf : ∀ a, x = .ok a → (f a).ComesTo (g a)) :
    ComesTo (c >>= f) (x >>= g) := by
  unfold ComesTo at *
  rw [outcome_bind, hc]
  cases x with
  | error e => rfl
  | ok a => exact hf a rfl

theorem bind_ok {a : α} {y : Except ε β} (hc : c.ComesTo (.ok a)) (hf : (f a).ComesTo y) :
    ComesTo (c >>= f) y :=
  hc.bind (g := fun _ => y) fun _ hb => Except.ok.inj hb ▸ hf

theorem checked {f : α → Course Unit ε α} (hc : c.ComesTo x)
    (hf : ∀ a, x = .ok a → (f a).ComesTo (.ok a)) : ComesTo (c >>= f) x := by
  have hbind := hc.bind hf
  cases x <;> exact hbind

theorem ite {p : Prop} [Decidable p] (h : p → c.ComesTo x) (h' : ¬ p → c'.ComesTo x') :
    ComesTo (if p then c else c') (if p then x else x') := by
  split
  next hp => exact h hp
  next hp => exact h' hp

theorem attempt (h : c.ComesTo x) : ComesTo (attempt c) (.ok x) := by
  unfold ComesTo Course.attempt outcome at *
  rw [ExceptT.run_lift, StateT.run_map, h]
  rfl

theorem mapM {f : α → Course Unit ε β} {g : α → β} {l : List α}
    (h : ∀ a ∈ l, (f a).ComesTo (.ok (g a))) : ComesTo (l.mapM f) (.ok (l.map g)) := by
  induction l with
  | nil => exact comesTo_pure _
  | cons a l ih =>
    rw [List.mapM_cons]
    refine bind_ok (h a List.mem_cons_self) (bind_ok (ih fun b hb => ?_) (comesTo_pure _))
    exact h b (List.mem_cons_of_mem _ hb)

end ComesTo

end Course

namespace X86

abbrev Access (α : Type) := Course Unit Refusal α

open Course

namespace Careful

/-- Where the name of a mnemonic ends in the text of all names. -/
def nameStop (id : Nat) : Access Nat :=
  if id < nameStarts.length then need nameStarts[id]? else return namesLength

def nameOf (id : Nat) : Access String := do
  demand (0 < id)
  let start ← need nameStarts[id - 1]?
  let stop ← nameStop id
  demand (start ≤ stop ∧ stop ≤ namesLength)
  let f ← need families[id - 1]?
  demand (start + f.name.utf8ByteSize = stop)
  return f.name

def rowAt (i : Nat) : Access (Entry × Form) := do
  let row ← need rows[i]?
  let e ← need entries[i]?
  let slots ← need patterns[e.pattern]?
  return (e, { row.form with digit := e.digit, slots })

def formAt (i : Nat) : Access String := do
  let (e, form) ← rowAt i
  let name ← nameOf e.id
  return form.render name

def forms (inst : Inst) : Access (List String) := do
  demand (inst.first + inst.count ≤ entries.length)
  (List.range' inst.first inst.count).mapM formAt

def fill (s : Scratch) : List (Option Operand) → Access Scratch
  | [] => return s
  | none :: _ => throw (.missingOperand s.args.length s.inst.name)
  | some a :: rest =>
    if a.mem?.isSome && s.memOffset.isSome then throw (.secondMem s.inst.name)
    else do
      demand (s.args.length < 4)
      fill (s.push a) rest

/-- Refusals name the mnemonic, so its name is looked up before there are any. -/
def hold (inst : Inst) (args : List (Option Operand)) : Access Scratch :=
  if !inst.isKnown then throw (.invalidInstruction inst.word)
  else do
    let _ ← nameOf inst.id
    if 4 < args.length then throw (.tooManyOperands inst.name)
    else do
      let s ← fill { inst } args
      demand (s.args.length ≤ 4)
      return s

/-- Puts the operands that take a place into an array of four. At most one of them may be in memory,
and at most one may be special. -/
def extract (m : Match) : Access Match := do
  demand (m.placed.length ≤ 4)
  demand (m.placed.countP (·.1.kind.takesMem) ≤ 1)
  demand (m.placed.countP (·.1.kind.isSpecial) ≤ 1)
  return m

/-- Tries the rows at some places. The entry of a row that takes the operands has to be the one that
is expected there. -/
def search (c : Matcher) (original : Scratch) (addrSize : Nat) (failure? : Option Refusal)
    (s : Scratch) : List Nat → Access Match
  | [] => throw (failure?.getD .noMatch)
  | k :: rest => do
    let (e, form) ← rowAt (s.inst.first + k)
    if form.takes c.mode c.features s.operands then
      demand (e.place = k ∧ e.id = s.inst.id)
      match s.resizeArgs c.mode form with
      | (s, .ok operandSize) =>
        extract (s.found c.mode form (s.inst.first + k) addrSize operandSize)
      | (s, .error e) =>
        let s := { s with args := original.args, mem := original.mem }
        search c original addrSize (failure?.or (some e)) s rest
    else search c original addrSize failure? s rest

def matchFrom (c : Matcher) (s : Scratch) (offset : Nat) : Access Match := do
  MonadExcept.ofExcept (s.checkMode c.mode)
  let (s, addrSize) ← MonadExcept.ofExcept (s.settle c.mode)
  if !c.mode.hasAddrSize addrSize then throw (.addrSize addrSize c.mode)
  else search c s addrSize none s (List.range' offset (s.inst.count - offset))

def find (c : Matcher) (inst : Inst) (args : List (Option Operand)) : Access Match := do
  matchFrom c (← hold inst args) 0

/-- Matches are copied with their arrays of operands and of trailing operands. -/
def copy (m : Match) : Access Match := do
  demand (m.args.length ≤ 4)
  demand (m.trailing.length ≤ 4)
  return m

def collect (c : Matcher) (inst : Inst) (args : List (Option Operand)) :
    (rounds offset : Nat) → Access (List Match × Option Refusal)
  | 0, _ => return ([], none)
  | rounds + 1, offset =>
    if inst.count ≤ offset then return ([], none)
    else do
      let s ← hold inst args
      match ← attempt (matchFrom c s offset) with
      | .error e => return ([], some e)
      | .ok m =>
        let m ← copy m
        let (found, failure?) ← collect c inst args rounds (m.row + 1 - inst.first)
        return (m :: found, failure?)

def findAll (c : Matcher) (inst : Inst) (args : List (Option Operand)) : Access (List Match) := do
  match ← collect c inst args inst.count 0 with
  | ([], failure?) => throw (failure?.getD .noMatch)
  | (found, _) => return found

/-- The opcode of a match: as many of four bytes as the entry tells. -/
def opcode (m : Match) : Access Bytes := do
  let e ← need entries[m.row]?
  let array := m.form.opcode ++ List.replicate (4 - m.form.opcode.length) 0
  need (array.read? 0 0 e.opcodeLength)

def immOp (m : Match) (opcode : Bytes) : Access (Bytes × Bytes) :=
  if m.form.has .immOp then do
    let last ← need opcode.getLast?
    return (opcode.dropLast, [last])
  else return (opcode, [])

def segmentPrefixes : List UInt8 := [0x26, 0x2e, 0x36, 0x3e, 0x64, 0x65]

def segment (m : Match) : Access Bytes :=
  match m.mem?.bind (·.seg) with
  | none => return []
  | some r => do
    let b ← need segmentPrefixes[r.num]?
    return [b]

def formPrefixes (m : Match) (p : Placement) (bits : SizeBits) (rex : Bool) (opcode : Bytes) :
    Access (Bytes × Bytes) :=
  if m.form.isVector then do
    let map ← need opcode.head?
    return m.formPrefixes p bits rex (map :: opcode.tail)
  else return m.formPrefixes p bits rex opcode

def opcodeBytes (m : Match) (p : Placement) (opcode : Bytes) : Access Bytes :=
  if m.form.has .shortArg then do
    let last ← need opcode.getLast?
    let r ← need (p.rm.bind (·.reg?))
    return opcode.dropLast ++ [last + (r.num8 &&& 7)]
  else return opcode

def lastBytes (m : Match) (p : Placement) : Access Bytes :=
  match p.last with
  | none => return []
  | some a => do
    let r ← need a.reg?
    demand (m.trailing = [])
    return [r.num8 <<< 4]

def emit (m : Match) (b : UInt8) : Access (Encoded Reloc) := do
  let opcode ← opcode m
  MonadExcept.ofExcept (m.checkPrefix b)
  let bits ← MonadExcept.ofExcept (m.sizeBits.mapError (.size m.inst.name))
  let rex ← MonadExcept.ofExcept (m.rexNeed bits.wide)
  let p := m.placement
  let (opcode, inImm) ← immOp m opcode
  let seg ← segment m
  let (formPrefixes, opcode) ← formPrefixes m p bits rex opcode
  let opcode ← opcodeBytes m p opcode
  let last ← lastBytes m p
  let head : Bytes := (if b = 0 then [] else [b]) ++ seg ++ (if m.addrPrefix then [0x67] else []) ++
    formPrefixes ++ opcode
  return Piece.join
    (.bytes head :: m.addressPieces p ++ [.bytes (inImm ++ last)] ++ m.trailing.map trailingPiece)

def encodeInst (c : Encoder) (b : UInt8) (inst : Inst) (args : List (Option Operand)) :
    Access (Encoded Reloc) := do
  match ← attempt (find c inst args) with
  | .ok m => emit m b
  | .error .noMatch => throw (.mismatch (Text.toLower (← nameOf inst.id)) (← forms inst))
  | .error e => throw e

/-! ### The table -/

section Table

variable {name : String} {inst : Inst} {i : Nat} {x : Numbered}

/-- Parts of a text that are told by where they begin end where the next one begins. -/
theorem getElem?_stops {starts : List Nat} {k : Nat} (stop : Nat) (hk : k < starts.length) :
    (starts.tail ++ [stop])[k]? = if k + 1 < starts.length then starts[k + 1]? else some stop := by
  split
  next hmore => rw [List.getElem?_append_left (by rw [List.length_tail]; omega), List.getElem?_tail]
  next hnomore =>
    rw [List.getElem?_append_right (by rw [List.length_tail]; omega), List.length_tail,
      show k - (starts.length - 1) = 0 by omega]
    rfl

theorem nameOf_comesTo {id : Nat} {f : Family} (hid : 0 < id) (hf : families[id - 1]? = some f) :
    (nameOf id).ComesTo (.ok f.name) := by
  obtain ⟨hlength, hnames⟩ := names_described
  unfold nameOf nameStop
  -- Nothing is computed from the table itself.
  generalize nameStarts = starts, namesLength = last, families = all at *
  have hlt : id - 1 < starts.length := hlength ▸ (List.getElem?_eq_some_iff.mp hf).1
  have hstart := List.getElem?_eq_getElem hlt
  obtain ⟨stop, hstop⟩ : ∃ stop, (starts.tail ++ [last])[id - 1]? = some stop := by
    refine ⟨_, List.getElem?_eq_getElem ?_⟩
    rw [List.length_append, List.length_tail, List.length_singleton]
    omega
  have hnamed := hnames ((_, stop), f) (List.mem_of_getElem?
    (List.getElem?_zip_eq_some.mpr ⟨List.getElem?_zip_eq_some.mpr ⟨hstart, hstop⟩, hf⟩))
  rw [getElem?_stops last hlt, Nat.sub_add_cancel hid] at hstop
  have hlast : ComesTo (if id < starts.length then need starts[id]? else return last : Access Nat)
      (.ok stop) := by
    split
    next hmore => exact comesTo_need ((if_pos hmore).symm.trans hstop)
    next hnomore =>
      rw [if_neg hnomore] at hstop
      exact Option.some.inj hstop ▸ comesTo_pure _
  dsimp only at hnamed
  exact (comesTo_demand hid).bind_ok ((comesTo_need hstart).bind_ok (hlast.bind_ok
    ((comesTo_demand ⟨by omega, hnamed.2⟩).bind_ok ((comesTo_need hf).bind_ok
      ((comesTo_demand hnamed.1).bind_ok (comesTo_pure _))))))

theorem nameOf_of_lookup (hname : Inst.lookup name = some inst) :
    (nameOf inst.id).ComesTo (.ok inst.name) := by
  obtain ⟨front, f, back, hfamilies, hid, -⟩ := Inst.lookup_eq_some hname
  have hfamily : families[front.length]? = some f := by
    rw [hfamilies]
    simp
  have hnumber : inst.id = front.length + 1 := hid.trans (Nat.add_comm ..)
  have hinst : inst.name = f.name := by
    unfold Inst.name
    rw [hnumber]
    dsimp only
    rw [hfamily]
    rfl
  rw [hinst, hnumber]
  exact nameOf_comesTo (Nat.succ_pos _) hfamily

theorem rowAt_comesTo (h : numbered[i]? = some x) :
    ∃ e, e.Describes x ∧ (rowAt i).ComesTo (.ok (e, x.row.form)) := by
  obtain ⟨e, he, hdescribes⟩ := exists_entry h
  have hrow : rows[i]? = some x.row := by
    rw [rows_eq_map, List.getElem?_map, h]
    rfl
  refine ⟨e, hdescribes, (comesTo_need hrow).bind_ok ((comesTo_need he).bind_ok
    ((comesTo_need hdescribes.slots).bind_ok ?_))⟩
  rw [hdescribes.digit]
  exact comesTo_pure _

theorem formAt_comesTo (h : numbered[i]? = some x) : (formAt i).ComesTo (.ok x.row.render) := by
  obtain ⟨e, hdescribes, hrow⟩ := rowAt_comesTo h
  obtain ⟨hid, f, hf, hname⟩ := name_of_numbered (List.mem_of_getElem? h)
  refine hrow.bind_ok (ComesTo.bind_ok (a := x.row.name) ?_ (comesTo_pure _))
  rw [hdescribes.id, ← hname]
  exact nameOf_comesTo hid hf

theorem getElem?_rows_of_lookup (hname : Inst.lookup name = some inst) {k : Nat}
    (hk : k < inst.count) : ∃ row, numbered[inst.first + k]? = some ⟨inst.id, k, row⟩ ∧
      inst.rows[k]? = some (row, inst.first + k) := by
  obtain ⟨row, hnumbered⟩ := Inst.numbered_of_lookup hname hk
  refine ⟨row, hnumbered, ?_⟩
  unfold Inst.rows
  rw [List.getElem?_zipIdx, List.getElem?_take_of_lt hk, List.getElem?_drop, rows_eq_map,
    List.getElem?_map, hnumbered]
  rfl

theorem length_rows_of_lookup (hname : Inst.lookup name = some inst) :
    inst.rows.length = inst.count := by
  refine Nat.le_antisymm (length_rows_le inst) (Nat.le_of_not_lt fun hlt => ?_)
  obtain ⟨row, -, hrow⟩ := getElem?_rows_of_lookup hname hlt
  exact Nat.lt_irrefl _ (List.getElem?_eq_some_iff.mp hrow).1

theorem forms_comesTo (hname : Inst.lookup name = some inst) :
    (forms inst).ComesTo (.ok inst.forms) := by
  have hrange : inst.first + inst.count ≤ entries.length := by
    rw [entries_describe.1, ← List.length_map (·.row), ← rows_eq_map]
    exact Inst.range_of_lookup hname
  have hforms : inst.forms = (List.range' inst.first inst.count).map fun i =>
      ((numbered[i]?).map (·.row.render)).getD "" := by
    refine List.ext_getElem? fun k => ?_
    unfold Inst.forms
    by_cases hk : k < inst.count
    · obtain ⟨row, hnumbered, hrow⟩ := getElem?_rows_of_lookup hname hk
      rw [List.getElem?_map, hrow, List.getElem?_map, List.getElem?_range' hk, Nat.one_mul,
        Option.map_some, Option.map_some, hnumbered]
      rfl
    · rw [List.getElem?_eq_none, List.getElem?_eq_none]
      · simpa using hk
      · simpa [length_rows_of_lookup hname] using hk
  rw [hforms]
  refine (comesTo_demand hrange).bind_ok (ComesTo.mapM fun i hi => ?_)
  obtain ⟨hle, hlt⟩ := List.mem_range'_1.mp hi
  obtain ⟨k, rfl⟩ := Nat.exists_eq_add_of_le hle
  obtain ⟨row, hnumbered, -⟩ := getElem?_rows_of_lookup hname (Nat.lt_of_add_lt_add_left hlt)
  rw [hnumbered]
  exact formAt_comesTo hnumbered

end Table

/-! ### The matcher -/

section Matching

variable {name : String} {inst : Inst} {c : Matcher} {args : List (Option Operand)} {s s' : Scratch}

theorem length_push (s : Scratch) (a : Operand) : (s.push a).args.length = s.args.length + 1 := by
  cases a <;> exact List.length_append

theorem length_fill (h : s.fill args = .ok s') : s'.args.length = s.args.length + args.length := by
  induction args generalizing s with
  | nil =>
    cases h
    rfl
  | cons a args ih =>
    cases a with
    | none => cases h
    | some a =>
      obtain ⟨-, h⟩ := eq_ok_of_guard h
      rw [ih h, length_push, List.length_cons]
      omega

theorem fill_comesTo (h : s.args.length + args.length ≤ 4) :
    (fill s args).ComesTo (s.fill args) := by
  induction args generalizing s with
  | nil => exact comesTo_pure _
  | cons a args ih =>
    rw [List.length_cons] at h
    cases a with
    | none => exact comesTo_throw _
    | some a =>
      refine ComesTo.ite (fun _ => comesTo_throw _) fun _ => ?_
      exact (comesTo_demand (by omega)).bind_ok (ih (by rw [length_push]; omega))

theorem hold_comesTo (hname : Inst.lookup name = some inst) :
    (hold inst args).ComesTo (Scratch.hold inst args) := by
  refine ComesTo.ite (fun _ => comesTo_throw _) fun _ => ?_
  refine (nameOf_of_lookup hname).bind_ok (ComesTo.ite (fun _ => comesTo_throw _) ?_)
  intro hlength
  rw [Nat.not_lt] at hlength
  have hfill : (fill { inst } args).ComesTo (Scratch.fill { inst } args) :=
    fill_comesTo (by simpa using hlength)
  refine hfill.checked fun s hs => (comesTo_demand ?_).bind_ok (comesTo_pure _)
  rw [length_fill hs]
  simpa using hlength

theorem extract_comesTo {m : Match} (hbounded : m.form.Bounded)
    (hlength : m.form.slots.length = m.args.length) : (extract m).ComesTo (.ok m) := by
  have hplaced : m.form.placed = m.placed.map (·.1) := Form.placed_eq hlength
  have hmemory := hbounded.memory
  have hspecial := hbounded.special
  rw [hplaced, List.countP_map] at hmemory hspecial
  refine (comesTo_demand ?_).bind_ok ((comesTo_demand hmemory).bind_ok
    ((comesTo_demand hspecial).bind_ok (comesTo_pure _)))
  rw [← List.length_map (·.1), ← hplaced]
  exact Nat.le_trans (List.length_filter_le ..) hbounded.slots

/-- The places from `k` on are those of the rows from `k` on. -/
theorem search_comesTo (hname : Inst.lookup name = some inst) (hinst : s.inst = inst) {n k : Nat}
    (hk : k + n = inst.count) (original : Scratch) (addrSize : Nat) (failure? : Option Refusal) :
    (search c original addrSize failure? s (List.range' k n)).ComesTo
      (c.search original addrSize failure? s (inst.rows.drop k)) := by
  induction n generalizing k s failure? with
  | zero =>
    rw [List.drop_of_length_le (by rw [length_rows_of_lookup hname]; omega)]
    exact comesTo_throw _
  | succ n ih =>
    obtain ⟨row, hnumbered, hrow⟩ := getElem?_rows_of_lookup hname (k := k) (by omega)
    obtain ⟨hlt, hget⟩ := List.getElem?_eq_some_iff.mp hrow
    obtain ⟨e, hdescribes, hat⟩ := rowAt_comesTo hnumbered
    rw [List.range'_succ, List.drop_eq_getElem_cons hlt, hget]
    subst hinst
    refine hat.bind_ok (ComesTo.ite (fun htakes => ?_) fun _ => ih rfl (by omega) failure?)
    refine (comesTo_demand ⟨hdescribes.place, hdescribes.id⟩).bind_ok ?_
    obtain ⟨-, -, hlength, -⟩ := Form.takes_iff.mp htakes
    obtain ⟨args, hafter⟩ := resizeArgs_fst c.mode row.form s
    cases hresize : s.resizeArgs c.mode row.form with
    | mk after size =>
      rw [hresize] at hafter
      obtain rfl : after = _ := hafter
      cases size with
      | ok size =>
        have hmem : row ∈ rows := by
          rw [rows_eq_map]
          exact List.mem_map.mpr ⟨_, List.mem_of_getElem? hnumbered, rfl⟩
        exact extract_comesTo
          (m := Scratch.found { s with args } c.mode row.form (s.inst.first + k) addrSize size)
          (rows_bounded row hmem) (hlength.trans (forall₂_resizeArgs hresize).length_eq)
      | error e =>
        exact ih (s := { s with args := original.args, mem := original.mem }) (k := k + 1) rfl
          (by omega) (failure?.or (some e))

theorem matchFrom_comesTo (hname : Inst.lookup name = some inst) (hinst : s.inst = inst)
    {offset : Nat} (hoffset : offset ≤ inst.count) :
    (matchFrom c s offset).ComesTo (c.matchFrom s offset) := by
  refine (comesTo_ofExcept _).bind fun _ _ => (comesTo_ofExcept _).bind fun x hsettle => ?_
  obtain ⟨settled, addrSize⟩ := x
  have hsettled := inst_of_settle hsettle
  refine ComesTo.ite (fun _ => comesTo_throw _) fun _ => ?_
  rw [hsettled, hinst]
  exact search_comesTo hname (hsettled.trans hinst) (Nat.add_sub_cancel' hoffset) ..

theorem find_comesTo (hname : Inst.lookup name = some inst) :
    (find c inst args).ComesTo (c.find inst args) := by
  refine (hold_comesTo hname).bind fun s hs => ?_
  obtain ⟨ops, -, hholds⟩ := holds_of_hold hs
  exact matchFrom_comesTo hname hholds.inst (Nat.zero_le _)

theorem copy_comesTo {ops settled : List Operand} {m : Match}
    (h : Matched c inst ops settled m) : (copy m).ComesTo (.ok m) :=
  (comesTo_demand h.length_args_le).bind_ok
    ((comesTo_demand h.length_trailing_le).bind_ok (comesTo_pure _))

theorem collect_comesTo (hname : Inst.lookup name = some inst) (rounds offset : Nat) :
    (collect c inst args rounds offset).ComesTo (c.collect inst args rounds offset) := by
  induction rounds generalizing offset with
  | zero => exact comesTo_pure _
  | succ rounds ih =>
    refine ComesTo.ite (fun _ => comesTo_pure _) fun hlt => (hold_comesTo hname).bind fun s hs => ?_
    obtain ⟨ops, hops, hholds⟩ := holds_of_hold hs
    have hmatch := matchFrom_comesTo (c := c) hname hholds.inst (Nat.le_of_not_le hlt)
    refine hmatch.attempt.bind_ok ?_
    cases hfound : c.matchFrom s offset with
    | error e => exact comesTo_pure _
    | ok m =>
      obtain ⟨-, settled, hmatched⟩ := (finds_of_matchFrom hholds hfound).matched
      refine (copy_comesTo hmatched).bind_ok ((ih _).bind fun _ _ => comesTo_pure _)

theorem findAll_comesTo (hname : Inst.lookup name = some inst) :
    (findAll c inst args).ComesTo (c.findAll inst args) := by
  refine (collect_comesTo hname _ _).bind fun x _ => ?_
  obtain ⟨_ | ⟨m, found⟩, failure?⟩ := x
  · exact comesTo_throw _
  · exact comesTo_pure _

end Matching

/-! ### The encoder -/

theorem Bytes.read?_append (bs rest : Bytes) :
    Bytes.read? (bs ++ rest) 0 0 bs.length = some bs := by
  unfold Bytes.read?
  rw [if_pos (by rw [List.length_append]; omega)]
  exact congrArg some List.take_left

theorem getLast?_eq_getLastD {bs : Bytes} (h : bs ≠ []) : bs.getLast? = some (bs.getLastD 0) := by
  rw [List.getLastD_eq_getLast?, List.getLast?_eq_some_getLast h]
  rfl

section Emitting

variable {name : String} {inst : Inst} {c : Matcher} {ops settled : List Operand} {m : Match}

theorem opcode_comesTo (h : Matched c inst ops settled m) :
    (opcode m).ComesTo (.ok m.form.opcode) := by
  obtain ⟨name, hrow⟩ := h.getElem?_rows
  obtain ⟨x, hx, hnumbered⟩ := exists_numbered hrow
  obtain ⟨e, he, hdescribes⟩ := exists_entry hx
  refine (comesTo_need he).bind_ok (comesTo_need ?_)
  rw [hdescribes.opcode, hnumbered]
  exact Bytes.read?_append ..

theorem immOp_comesTo (h : Matched c inst ops settled m) : (immOp m m.form.opcode).ComesTo
    (.ok (m.form.code, if m.form.has .immOp then [m.form.opcode.getLastD 0] else [])) := by
  unfold immOp Form.code
  split
  next himm =>
    exact (comesTo_need (getLast?_eq_getLastD (h.bounded.immOp himm))).bind_ok (comesTo_pure _)
  next hnone => exact comesTo_pure _

theorem segment_comesTo (h : ∀ r ∈ m.segment?, r.num < 6) :
    (segment m).ComesTo (.ok (m.segment?.map segmentPrefix).toList) := by
  unfold segment Match.segment? at *
  cases hseg : m.mem?.bind (·.seg) with
  | none => exact comesTo_pure _
  | some r =>
    have hnum : r.num < segmentPrefixes.length := h r hseg
    have hget := List.getElem?_eq_getElem hnum
    have hprefix : segmentPrefix r = segmentPrefixes[r.num] := congrArg (Option.getD · 0) hget
    rw [Option.map_some, hprefix]
    exact (comesTo_need hget).bind_ok (comesTo_pure _)

theorem formPrefixes_comesTo (h : Matched c inst ops settled m) (p : Placement) (bits : SizeBits)
    (rex : Bool) : (formPrefixes m p bits rex m.form.code).ComesTo
      (.ok (m.formPrefixes p bits rex m.form.code)) := by
  unfold formPrefixes
  split
  next hvector =>
    obtain ⟨a, b, hcode⟩ := List.length_eq_two.mp (h.regular.vector hvector).1
    rw [hcode]
    exact (comesTo_need rfl).bind_ok (comesTo_pure _)
  next hplain => exact comesTo_pure _

/-- In short forms the one operand that takes a place is a register. -/
theorem rm_of_short (h : Matched c inst ops settled m) (hshort : m.form.has .shortArg = true) :
    ∃ r, m.placement.rm = some (.reg r) := by
  obtain ⟨hplaces, -⟩ := h.regular.short hshort
  obtain ⟨s, hs⟩ : ∃ s, s ∈ m.form.placed :=
    List.exists_mem_of_length_pos (by rw [← h.regular.length, hplaces]; decide)
  obtain ⟨x, hslot, himplied, htrailing⟩ := h.slot_of_placed hs
  obtain ⟨q, hassigned, hzip⟩ := h.regular.exists_role h.length_slots hslot himplied htrailing
  rw [hplaces] at hzip
  obtain rfl := List.mem_singleton.mp (List.of_mem_zip hzip).2
  have hrm : m.placement.rm = some x := (h.placement_get .rm _).mpr hassigned
  rcases h.reg_or_mem_of_placement (q := .rm) hrm with ⟨r, rfl⟩ | ⟨a, rfl⟩
  · exact ⟨r, hrm⟩
  · rw [(h.rm_of_mem_slot hslot).2.1] at hshort
    cases hshort

theorem opcodeBytes_comesTo (h : Matched c inst ops settled m) (bits : SizeBits) (rex : Bool) :
    (opcodeBytes m m.placement (m.formPrefixes m.placement bits rex m.form.code).2).ComesTo
      (.ok (m.opcodeBytes m.placement (m.formPrefixes m.placement bits rex m.form.code).2)) := by
  unfold opcodeBytes Match.opcodeBytes
  split
  next hshort =>
    have hplain : m.form.isVector = false := by
      rw [Bool.eq_false_iff]
      intro hvector
      rw [(h.regular.vector hvector).2.2] at hshort
      cases hshort
    have hcode : (m.formPrefixes m.placement bits rex m.form.code).2 = m.form.code := by
      unfold Match.formPrefixes
      rw [hplain]
      rfl
    obtain ⟨r, hrm⟩ := rm_of_short h hshort
    rw [hcode, hrm]
    exact (comesTo_need (getLast?_eq_getLastD (h.bounded.short hshort))).bind_ok
      ((comesTo_need rfl).bind_ok (comesTo_pure _))
  next hlong => exact comesTo_pure _

theorem lastBytes_comesTo (h : Matched c inst ops settled m) :
    (lastBytes m m.placement).ComesTo (.ok m.placement.lastBytes) := by
  unfold lastBytes Placement.lastBytes
  cases hlast : m.placement.last with
  | none => exact comesTo_pure _
  | some x =>
    obtain ⟨s, hslot, -, -, hzip⟩ := h.slot_of_placement (q := .last) hlast
    have htrailing : m.trailing = [] := by
      unfold Match.trailing
      rw [List.map_eq_nil_iff, List.filter_eq_nil_iff]
      rintro ⟨slot, y⟩ hy
      rw [Bool.not_eq_true]
      exact h.bounded.last (List.of_mem_zip hzip).2 slot (List.of_mem_zip hy).1
    rcases h.reg_or_mem_of_placement (q := .last) hlast with ⟨r, rfl⟩ | ⟨a, rfl⟩
    · exact (comesTo_need rfl).bind_ok ((comesTo_demand htrailing).bind_ok (comesTo_pure _))
    · have hrole := (h.regular.memory _ hzip (h.takes_mem hslot).1).1
      cases hrole

theorem emit_comesTo (h : Matched c inst ops settled m) (hseg : ∀ r ∈ m.segment?, r.num < 6)
    (b : UInt8) : (emit m b).ComesTo (m.emit b) := by
  refine (opcode_comesTo h).bind_ok ((comesTo_ofExcept _).bind fun _ _ =>
    (comesTo_ofExcept _).bind fun bits _ => (comesTo_ofExcept _).bind fun rex _ => ?_)
  exact (immOp_comesTo h).bind_ok ((segment_comesTo hseg).bind_ok
    ((formPrefixes_comesTo h m.placement bits rex).bind_ok
      ((opcodeBytes_comesTo h bits rex).bind_ok ((lastBytes_comesTo h).bind_ok (comesTo_pure _)))))

theorem encodeInst_comesTo (hname : Inst.lookup name = some inst) {args : List (Option Operand)}
    (hgiven : ∀ a, some (.mem a) ∈ args → ∀ r ∈ a.seg, r.IsGiven) (b : UInt8) :
    (encodeInst c b inst args).ComesTo (Encoder.encodeInst c b inst args) := by
  unfold Encoder.encodeInst
  refine (find_comesTo hname).attempt.bind_ok ?_
  cases hfind : c.find inst args with
  | ok m =>
    obtain ⟨s, hhold, hmatch⟩ := bind_eq_ok hfind
    obtain ⟨ops, rfl, -⟩ := holds_of_hold hhold
    obtain ⟨hone, settled, hmatched⟩ := (finds_of_find hfind).matched
    refine emit_comesTo hmatched (hmatched.segment_lt hone fun a ha => hgiven a ?_) b
    exact List.mem_map_of_mem (mem_memories.mp ha)
  | error e =>
    cases e with
    | noMatch =>
      exact (nameOf_of_lookup hname).bind_ok ((forms_comesTo hname).bind_ok (comesTo_throw _))
    | _ => exact comesTo_throw _

end Emitting

end Careful

/-- Every access of the matcher and the encoder is in range. For an instruction that a name stands
for, and any operands, of which some may be missing, searches for one match and for all of them and
the encoder come to a result or a refusal, and they reach for nothing that is not there: the entry
of each row is the one that is expected at its place, operands fit into arrays of four, bytes that
are taken from an opcode are in it, an operand in an immediate byte is a register, and the segment
registers of addresses, which have to exist, have a prefix. -/
theorem accesses_in_range {name : String} {inst : Inst} (hname : Inst.lookup name = some inst)
    {args : List (Option Operand)}
    (hgiven : ∀ a, some (.mem a) ∈ args → ∀ r ∈ a.seg, r.IsGiven) (c : Matcher) :
    (Careful.find c inst args).ComesTo (c.find inst args) ∧
      (Careful.findAll c inst args).ComesTo (c.findAll inst args) ∧
      ∀ b, (Careful.encodeInst c b inst args).ComesTo (Encoder.encodeInst c b inst args) :=
  ⟨Careful.find_comesTo hname, Careful.findAll_comesTo hname,
    Careful.encodeInst_comesTo hname hgiven⟩

def moveSegment : List (Option Operand) :=
  [some (.reg (.make .legacy 4 0)),
    some (.mem { base := some (.make .legacy 8 3), seg := some (.make .segment 2 4) })]

theorem accesses_in_range_segment : Inst.lookup "mov" = some ⟨0x32da02d1⟩ ∧
    (∀ a, some (.mem a) ∈ moveSegment → ∀ r ∈ a.seg, r.IsGiven) ∧
    (Careful.find ⟨.x64, .everything⟩ ⟨0x32da02d1⟩ moveSegment).ComesTo
      (Matcher.find ⟨.x64, .everything⟩ ⟨0x32da02d1⟩ moveSegment) ∧
    (Careful.findAll ⟨.x64, .everything⟩ ⟨0x32da02d1⟩ moveSegment).ComesTo
      (Matcher.findAll ⟨.x64, .everything⟩ ⟨0x32da02d1⟩ moveSegment) ∧
    ∀ b, (Careful.encodeInst ⟨.x64, .everything⟩ b ⟨0x32da02d1⟩ moveSegment).ComesTo
      (Encoder.encodeInst ⟨.x64, .everything⟩ b ⟨0x32da02d1⟩ moveSegment) := by
  have hname : Inst.lookup "mov" = some ⟨0x32da02d1⟩ := by decide +kernel
  have hgiven : ∀ a, some (.mem a) ∈ moveSegment → ∀ r ∈ a.seg, r.IsGiven := by
    intro a ha r hr
    simp only [moveSegment, List.mem_cons, Option.some.injEq, reduceCtorEq, Operand.mem.injEq,
      List.not_mem_nil, or_false, false_or] at ha
    subst ha
    obtain rfl := Option.some.inj hr
    exact Register.isGiven_of_name (n := "fs") (by decide)
  exact ⟨hname, hgiven, accesses_in_range hname hgiven _⟩

end X86

end MachineCode
