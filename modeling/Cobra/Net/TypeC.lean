import Cobra.Net.Streamer

/-!
# The Mapping-Table Packets

`NetworkStreamer::UpdateClientMeta` sends the calibration's mapping table, the angles
`(theta, phi)` of every point `(U, V)` of a `MAPPING_TABLE_WIDTH × MAPPING_TABLE_HEIGHT` grid
stored line by line, as Type C packets. For every line `payloadV`, and every `payloadU` from `0`
in steps of `TYPE_C_POINTS_PER_PACKET_MAX` below the width, it zeroes a packet, writes its Type
C header, and fills its 64 entries with the next table values, one a point, leaving the entries
past the end of the line zero. `Streamer.typeCBurst` numbers and sends these packets; this
module says what they carry.

## Conventions

The table vectors are read with the unchecked `operator[]` (`readAt`) at `mappingTableIndex`,
an `int` that stays below the table's length. An entry holds the `uint32_t` bit patterns of the
two `int32_t` angles (`u32`). The byte swaps of `htonl` and `htons` fix the wire's byte order,
which the model does not spell out: a field is the value a client reads back with `ntohl` or
`ntohs`. The loop over `payloadU` is written with `payloadU = 64 k`. A client reads point
`(U, V)` from the packet of line `V` whose entries reach `U`, as the comment on the Type C format
describes (`decodePoint`).

## Main results

* `sendMappingTable_eq`: the burst, packet by packet (`mappingTablePacket`).
* `decodePoint_sendMappingTable`: on a table of `width · height` angles in the `int32_t` range,
  the burst runs through the whole table once without a fault, sends `height` lines of
  `⌈width / 64⌉` packets (`typeCPacketsPerRow` at the source's sizes), and a client reads back
  the angles of every point.
-/

namespace Cobra

namespace NetStreamer

/-- `TypeCParameterType::coordinateMap32ASTheta32ASPhi`. -/
def coordinateMap32ASTheta32ASPhi : Nat := 2

/-- The `TypeCHeader` of a mapping-table packet; its reserved fields stay zero. -/
structure TypeCHeader where
  imageEndU : Nat
  imageEndV : Nat
  payloadStartU : Nat
  payloadStartV : Nat
  parameterType : Nat
  deriving DecidableEq, Repr

/-- A `TypeCMappingTable` packet after its global header: the Type C header and the
`(theta, phi)` entries. -/
structure TypeCMappingTable where
  tCh : TypeCHeader
  mappingTableEntry : List (Nat × Nat)
  deriving DecidableEq, Repr

section Code

/-- Entry `mapPktIndex` of the packet at `payloadU`, on the state `(mappingTableIndex, entries)`:
past the end of the line it keeps the `memset`'s zero; otherwise it takes the table's angles at
`mappingTableIndex`, which moves on. -/
def fillEntry (calibrationTheta calibrationPhi : List Int) (width payloadU mapPktIndex : Nat)
    (s : Nat × List (Nat × Nat)) : Except Fault (Nat × List (Nat × Nat)) :=
  if mapPktIndex + payloadU ≥ width then .ok s
  else do
    let theta ← readAt .calibrationTheta calibrationTheta s.1
    let phi ← readAt .calibrationPhi calibrationPhi s.1
    let entries ← writeAt .mappingTableEntry s.2 mapPktIndex (u32 theta, u32 phi)
    return (s.1 + 1, entries)

/-- One packet of the burst: the `memset`, the Type C header and the entries, with the table
index it reaches. -/
def typeCPacket (calibrationTheta calibrationPhi : List Int)
    (width height payloadU payloadV mappingTableIndex : Nat) :
    Except Fault (TypeCMappingTable × Nat) := do
  let r ← forLoop typeCPointsPerPacketMax (fillEntry calibrationTheta calibrationPhi width payloadU)
    (mappingTableIndex, List.replicate typeCPointsPerPacketMax (0, 0))
  return (⟨⟨u16 ((width : Int) - 1), u16 ((height : Int) - 1), u16 payloadU, u16 payloadV,
    coordinateMap32ASTheta32ASPhi⟩, r.2⟩, r.1)

/-- The two loops of `UpdateClientMeta` over a table of `width × height` points: the packets in
the order they are sent, and the table index reached. -/
def sendMappingTable (calibrationTheta calibrationPhi : List Int) (width height : Nat) :
    Except Fault (List TypeCMappingTable × Nat) :=
  forLoop height (fun payloadV =>
    forLoop ((width + typeCPointsPerPacketMax - 1) / typeCPointsPerPacketMax) fun k s => do
      let r ← typeCPacket calibrationTheta calibrationPhi width height
        (typeCPointsPerPacketMax * k) payloadV s.2
      return (s.1 ++ [r.1], r.2))
    ([], 0)

end Code

/-! ### What the burst carries -/

section Spec

/-- The angles of table index `i` as an entry carries them. -/
def entryAt (calibrationTheta calibrationPhi : List Int) (i : Nat) : Nat × Nat :=
  (u32 (calibrationTheta.getD i 0), u32 (calibrationPhi.getD i 0))

/-- Packet `k` of line `payloadV`: it starts at `U = 64 k`, and entry `j` holds the point
`(64 k + j, payloadV)` when that lies on the line, and zero otherwise. -/
def mappingTablePacket (calibrationTheta calibrationPhi : List Int) (width height payloadV k : Nat) :
    TypeCMappingTable :=
  ⟨⟨u16 ((width : Int) - 1), u16 ((height : Int) - 1), u16 (typeCPointsPerPacketMax * k : Nat),
    u16 payloadV, coordinateMap32ASTheta32ASPhi⟩,
    (List.range typeCPointsPerPacketMax).map fun j =>
      if typeCPointsPerPacketMax * k + j < width then
        entryAt calibrationTheta calibrationPhi (payloadV * width + typeCPointsPerPacketMax * k + j)
      else (0, 0)⟩

/-- What a client reads for point `(U, V)` from one packet: the entry at `U - payloadStartU` of
a packet of line `V` whose entries reach `U`, for a point up to `imageEndU`, cast back to
`int32_t`. -/
def TypeCMappingTable.pointAt (p : TypeCMappingTable) (U V : Nat) : Option (Int × Int) :=
  if p.tCh.payloadStartV = V ∧ p.tCh.payloadStartU ≤ U ∧
      U < p.tCh.payloadStartU + typeCPointsPerPacketMax ∧ U ≤ p.tCh.imageEndU then
    p.mappingTableEntry[U - p.tCh.payloadStartU]?.map fun e => (int32OfU32 e.1, int32OfU32 e.2)
  else none

/-- A client's reading of point `(U, V)` from a burst: the first packet that covers it. -/
def decodePoint (packets : List TypeCMappingTable) (U V : Nat) : Option (Int × Int) :=
  packets.findSome? fun p => p.pointAt U V

/-- A search over a list every element of which answers nothing or `a`, one of them `a`, finds
`a`. -/
theorem findSome?_eq_of_agree {β γ : Type} {f : β → Option γ} {a : γ} :
    ∀ {l : List β}, (∀ x ∈ l, f x = none ∨ f x = some a) → (∃ x ∈ l, f x = some a) →
      l.findSome? f = some a
  | [], _, ⟨_, hx, _⟩ => absurd hx (List.not_mem_nil _)
  | x :: xs, h, ⟨y, hy, hfy⟩ => by
    rw [List.findSome?_cons]
    rcases h x (.head _) with hx | hx
    · rw [hx]
      refine findSome?_eq_of_agree (fun z hz => h z (.tail _ hz)) ⟨y, ?_, hfy⟩
      rcases List.mem_cons.1 hy with rfl | hy
      · rw [hx] at hfy; cases hfy
      · exact hy
    · rw [hx]

end Spec

section Run

variable {calibrationTheta calibrationPhi : List Int} {width height : Nat}

/-- **The entries of one packet.** From table index `idx`, the packet at `payloadU` reads the
next `min 64 (width - payloadU)` points into its first entries and leaves the others zero. -/
theorem forLoop_fillEntry {payloadU idx : Nat}
    (hθ : idx + min typeCPointsPerPacketMax (width - payloadU) ≤ calibrationTheta.length)
    (hφ : idx + min typeCPointsPerPacketMax (width - payloadU) ≤ calibrationPhi.length) :
    forLoop typeCPointsPerPacketMax (fillEntry calibrationTheta calibrationPhi width payloadU)
        (idx, List.replicate typeCPointsPerPacketMax (0, 0)) =
      .ok (idx + min typeCPointsPerPacketMax (width - payloadU),
        (List.range typeCPointsPerPacketMax).map fun j =>
          if payloadU + j < width then entryAt calibrationTheta calibrationPhi (idx + j) else (0, 0)) := by
  let w j' : Nat × Nat := entryAt calibrationTheta calibrationPhi (idx + j')
  let P j (s : Nat × List (Nat × Nat)) := s.1 = idx + min j (width - payloadU) ∧
    s.2 = (List.range typeCPointsPerPacketMax).map fun j' =>
      if j' < j ∧ payloadU + j' < width then w j' else (0, 0)
  have hstep : ∀ j < typeCPointsPerPacketMax, ∀ s, P j s → ∃ s',
      fillEntry calibrationTheta calibrationPhi width payloadU j s = .ok s' ∧ P (j + 1) s' := by
    rintro j hj ⟨i, e⟩ ⟨hi, rfl⟩
    dsimp only at hi
    unfold fillEntry
    split_ifs with hend
    · refine ⟨_, rfl, by dsimp only; omega, List.map_congr_left fun j' _ => ?_⟩
      by_cases hj' : j' = j
      · subst hj'; simp only [show ¬ payloadU + j' < width by omega, and_false, if_false]
      · simp only [show j' < j + 1 ↔ j' < j by omega]
    · have hlt : i < calibrationTheta.length ∧ i < calibrationPhi.length := by
        simp only [typeCPointsPerPacketMax] at hj hθ hφ; omega
      rw [readAt_eq_getD 0 hlt.1, ok_bind, readAt_eq_getD 0 hlt.2, ok_bind,
        writeAt_of_lt (by simpa using hj), set_map_range]
      refine ⟨_, rfl, by dsimp only; omega, List.map_congr_left fun j' _ => ?_⟩
      rw [Function.update_apply]
      by_cases h1 : j' = j
      · rw [if_pos h1, if_pos ⟨by omega, by omega⟩, h1, hi,
          show min j (width - payloadU) = j by omega]
        rfl
      · rw [if_neg h1]
        simp only [show j' < j + 1 ↔ j' < j by omega]
  obtain ⟨⟨i, e⟩, hrun, hi, he⟩ := forLoop_ok P hstep
    (idx, List.replicate typeCPointsPerPacketMax (0, 0)) ⟨by simp, by simp only [Nat.not_lt_zero, false_and, if_false, List.map_const',
      List.length_range]⟩
  dsimp only at hi he
  rw [hrun, hi, he]
  exact congrArg _ (congrArg _ (List.map_congr_left fun j' hj' => by
    simp only [List.mem_range.1 hj', true_and]))

/-- **One line.** From table index `payloadV · width`, the packets of line `payloadV` are
`mappingTablePacket` at `k = 0, 1, ...`, and they read the line's `width` points. -/
theorem sendLine_eq {payloadV : Nat} {packets : List TypeCMappingTable}
    (hθ : (payloadV + 1) * width ≤ calibrationTheta.length)
    (hφ : (payloadV + 1) * width ≤ calibrationPhi.length) :
    forLoop ((width + typeCPointsPerPacketMax - 1) / typeCPointsPerPacketMax) (fun k s => do
        let r ← typeCPacket calibrationTheta calibrationPhi width height
          (typeCPointsPerPacketMax * k) payloadV s.2
        return (s.1 ++ [r.1], r.2)) (packets, payloadV * width) =
      .ok (packets ++ (List.range ((width + typeCPointsPerPacketMax - 1) / typeCPointsPerPacketMax)).map
        (mappingTablePacket calibrationTheta calibrationPhi width height payloadV), (payloadV + 1) * width) := by
  rw [Nat.succ_mul] at hθ hφ ⊢
  let P k (s : List TypeCMappingTable × Nat) := s = (packets ++ (List.range k).map
    (mappingTablePacket calibrationTheta calibrationPhi width height payloadV),
    payloadV * width + min (typeCPointsPerPacketMax * k) width)
  have hstep : ∀ k < (width + typeCPointsPerPacketMax - 1) / typeCPointsPerPacketMax, ∀ s, P k s →
      ∃ s', (do
        let r ← typeCPacket calibrationTheta calibrationPhi width height
          (typeCPointsPerPacketMax * k) payloadV s.2
        return (s.1 ++ [r.1], r.2)) = .ok s' ∧ P (k + 1) s' := by
    rintro k hk s rfl
    have hlt : typeCPointsPerPacketMax * k < width := by
      simp only [typeCPointsPerPacketMax] at hk ⊢; omega
    refine ⟨_, ?_, rfl⟩
    rw [min_eq_left hlt.le, typeCPacket, forLoop_fillEntry (by omega) (by omega)]
    simp only [ok_bind, pure_eq_ok, List.range_succ, List.map_append, List.map_singleton,
      List.append_assoc]
    refine congrArg Except.ok (Prod.ext rfl ?_)
    simp only [typeCPointsPerPacketMax] at hlt ⊢
    omega
  obtain ⟨s, hrun, rfl⟩ := forLoop_ok P hstep (packets, payloadV * width) (by simp [P])
  rw [hrun]
  refine congrArg Except.ok (Prod.ext rfl ?_)
  simp only [typeCPointsPerPacketMax]
  omega

/-- **The burst.** On a table of at least `height · width` angles, `sendMappingTable` returns
without a fault the packets of every line in order, and reaches the table index
`height · width`. -/
theorem sendMappingTable_eq (hθ : height * width ≤ calibrationTheta.length)
    (hφ : height * width ≤ calibrationPhi.length) :
    sendMappingTable calibrationTheta calibrationPhi width height =
      .ok ((List.range height).flatMap (fun payloadV =>
        (List.range ((width + typeCPointsPerPacketMax - 1) / typeCPointsPerPacketMax)).map
          (mappingTablePacket calibrationTheta calibrationPhi width height payloadV)), height * width) := by
  let P v (s : List TypeCMappingTable × Nat) := s = ((List.range v).flatMap (fun payloadV =>
    (List.range ((width + typeCPointsPerPacketMax - 1) / typeCPointsPerPacketMax)).map
      (mappingTablePacket calibrationTheta calibrationPhi width height payloadV)), v * width)
  have hstep : ∀ v < height, ∀ s, P v s → ∃ s', forLoop ((width + typeCPointsPerPacketMax - 1) /
      typeCPointsPerPacketMax) (fun k s => do
        let r ← typeCPacket calibrationTheta calibrationPhi width height
          (typeCPointsPerPacketMax * k) v s.2
        return (s.1 ++ [r.1], r.2)) s = .ok s' ∧ P (v + 1) s' := by
    rintro v hv s rfl
    have hle : (v + 1) * width ≤ height * width := Nat.mul_le_mul_right _ hv
    refine ⟨_, sendLine_eq (by omega) (by omega), ?_⟩
    simp only [P, List.range_succ, List.flatMap_append]
    simp
  obtain ⟨s, hrun, rfl⟩ := forLoop_ok P hstep ([], 0) (by simp [P])
  rw [sendMappingTable, hrun]

/-- What a client reads for a point of the table from one packet of the burst: the point's
angles from the packet of its line whose entries reach it, and nothing from any other. -/
theorem pointAt_mappingTablePacket {U V payloadV k : Nat} (hw : width ≤ 2 ^ 16)
    (hh : height ≤ 2 ^ 16) (hv : payloadV < height) (hk : typeCPointsPerPacketMax * k < width)
    (hU : U < width) (hV : V < height)
    (hθ : height * width ≤ calibrationTheta.length) (hφ : height * width ≤ calibrationPhi.length)
    (hr : ∀ x ∈ calibrationTheta ++ calibrationPhi, -2 ^ 31 ≤ x ∧ x < 2 ^ 31) :
    (mappingTablePacket calibrationTheta calibrationPhi width height payloadV k).pointAt U V =
      if payloadV = V ∧ typeCPointsPerPacketMax * k ≤ U ∧ U < typeCPointsPerPacketMax * k +
          typeCPointsPerPacketMax then
        some (calibrationTheta.getD (V * width + U) 0, calibrationPhi.getD (V * width + U) 0)
      else none := by
  have hi : V * width + U < height * width :=
    calc V * width + U < (V + 1) * width := by rw [Nat.succ_mul]; omega
      _ ≤ height * width := Nat.mul_le_mul_right _ hV
  have hend : u16 ((width : Int) - 1) = width - 1 := by
    rw [show (width : Int) - 1 = ((width - 1 : Nat) : Int) by omega, u16_natCast (by omega)]
  have hmem : ∀ l : List Int, height * width ≤ l.length → (∀ x ∈ l, -2 ^ 31 ≤ x ∧ x < 2 ^ 31) →
      int32OfU32 (u32 (l.getD (V * width + U) 0)) = l.getD (V * width + U) 0 := fun l hl hlr => by
    rw [List.getD_eq_getElem _ _ (by omega)]
    exact int32OfU32_u32 (hlr _ (List.getElem_mem _)).1 (hlr _ (List.getElem_mem _)).2
  unfold TypeCMappingTable.pointAt mappingTablePacket
  simp only [hend, u16_natCast (show payloadV < 2 ^ 16 by omega),
    u16_natCast (show typeCPointsPerPacketMax * k < 2 ^ 16 by omega)]
  by_cases hc : payloadV = V ∧ typeCPointsPerPacketMax * k ≤ U ∧
    U < typeCPointsPerPacketMax * k + typeCPointsPerPacketMax
  · obtain ⟨rfl, h1, h2⟩ := hc
    rw [if_pos ⟨rfl, h1, h2, by omega⟩, if_pos ⟨rfl, h1, h2⟩,
      List.getElem?_map, List.getElem?_range (by omega), Option.map_some', Option.map_some',
      if_pos (by omega), show payloadV * width + typeCPointsPerPacketMax * k +
        (U - typeCPointsPerPacketMax * k) = payloadV * width + U by omega, entryAt,
      hmem _ hθ fun x hx => hr x (List.mem_append_left _ hx),
      hmem _ hφ fun x hx => hr x (List.mem_append_right _ hx)]
  · rw [if_neg fun h => hc ⟨h.1, h.2.1, h.2.2.1⟩, if_neg hc]

/-- **A client reads back the table.** On a table of `width · height` angles in the `int32_t`
range, of at most `2 ^ 16` points a side and fewer than `2 ^ 31` points in all, so that the
`int` index `mappingTableIndex` does not overflow, the burst runs through the whole table once
without a fault, sends `height` lines of `⌈width / 64⌉` packets, and the client's reading of
every point `(U, V)` is the angles at index `V · width + U`. -/
theorem decodePoint_sendMappingTable (hθ : calibrationTheta.length = width * height)
    (hφ : calibrationPhi.length = width * height)
    (hr : ∀ x ∈ calibrationTheta ++ calibrationPhi, -2 ^ 31 ≤ x ∧ x < 2 ^ 31)
    (hw : width ≤ 2 ^ 16) (hh : height ≤ 2 ^ 16) (_hidx : width * height < 2 ^ 31) :
    ∃ packets, sendMappingTable calibrationTheta calibrationPhi width height =
        .ok (packets, width * height) ∧
      packets.length = height * ((width + typeCPointsPerPacketMax - 1) / typeCPointsPerPacketMax) ∧
      ∀ U < width, ∀ V < height, decodePoint packets U V =
        some (calibrationTheta.getD (V * width + U) 0, calibrationPhi.getD (V * width + U) 0) := by
  have hθ' : height * width ≤ calibrationTheta.length := by rw [hθ, Nat.mul_comm]
  have hφ' : height * width ≤ calibrationPhi.length := by rw [hφ, Nat.mul_comm]
  refine ⟨_, (sendMappingTable_eq hθ' hφ').trans (by rw [Nat.mul_comm]), ?_, fun U hU V hV => ?_⟩
  · simp only [List.length_flatMap, Function.comp_def, List.length_map, List.length_range,
      List.map_const', List.sum_replicate, smul_eq_mul]
  have hP : U / typeCPointsPerPacketMax <
      (width + typeCPointsPerPacketMax - 1) / typeCPointsPerPacketMax := by
    simp only [typeCPointsPerPacketMax]; omega
  have hpoint := fun v (hv : v < height) k
      (hk : k < (width + typeCPointsPerPacketMax - 1) / typeCPointsPerPacketMax) =>
    pointAt_mappingTablePacket (k := k) hw hh hv
      (by simp only [typeCPointsPerPacketMax] at hk ⊢; omega) hU hV hθ' hφ' hr
  refine findSome?_eq_of_agree (fun p hp => ?_) ⟨_, List.mem_flatMap.2 ⟨V, List.mem_range.2 hV,
    List.mem_map.2 ⟨_, List.mem_range.2 hP, rfl⟩⟩, ?_⟩
  · obtain ⟨v, hv, hp⟩ := List.mem_flatMap.1 hp
    obtain ⟨k, hk, rfl⟩ := List.mem_map.1 hp
    rw [hpoint v (List.mem_range.1 hv) k (List.mem_range.1 hk)]
    split_ifs
    · exact .inr rfl
    · exact .inl rfl
  · rw [hpoint V hV _ hP, if_pos ⟨rfl, by simp only [typeCPointsPerPacketMax]; omega,
      by simp only [typeCPointsPerPacketMax]; omega⟩]

/-- The burst of a table of three points a line and two lines. -/
theorem decodePoint_sendMappingTable_threeByTwo :
    ∃ packets, sendMappingTable [1, -2, 3, 4, 5, -6] [7, 8, 9, -10, 11, 12] 3 2 =
        .ok (packets, 3 * 2) ∧
      packets.length = 2 * ((3 + typeCPointsPerPacketMax - 1) / typeCPointsPerPacketMax) ∧
      ∀ U < 3, ∀ V < 2, decodePoint packets U V =
        some ([1, -2, 3, 4, 5, -6].getD (V * 3 + U) 0, [7, 8, 9, -10, 11, 12].getD (V * 3 + U) 0) :=
  decodePoint_sendMappingTable rfl rfl (by decide) (by norm_num) (by norm_num) (by norm_num)

end Run

end NetStreamer

end Cobra
