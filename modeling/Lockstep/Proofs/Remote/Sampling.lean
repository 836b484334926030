import Lockstep.Proofs.Remote.Acceptance
import Lockstep.Proofs.Remote.Calls

namespace Lockstep

namespace RegisterBlock

variable {digits : List Char}

/-- The digits of any values for any registers are read as those, and the table of what is read gives
each register the last of its values. -/
theorem sample_of_spells {layout : List Register} {words : List Word}
    (hl : words.length = layout.length) (hs : Spells digits words) (tail : List Char) :
    decode (String.ofList (digits ++ tail)) layout = .ok (layout.zip words) ∧
      ∃ update, Update.ofDump (table (layout.zip words)) = .ok update ∧
        ∀ register, Latest (·.1 = register) (fun entry word ↦ entry = (register, word))
          (layout.zip words) (update.get register) := by
  have hr : (layout.zip words).map Prod.fst = layout := List.map_fst_zip (Nat.le_of_eq hl.symm)
  have hw : (layout.zip words).map Prod.snd = words := List.map_snd_zip (Nat.le_of_eq hl)
  have hd := (hw.symm ▸ hs : Spells digits ((layout.zip words).map Prod.snd)).decode_eq tail
  rw [hr] at hd
  exact ⟨hd, _, ofDump_table _, Update.latest_ofWrites _⟩

theorem sample_of_mixed_case :
    let layout := [Register.hl, .pc, .hl]
    let words : List Word := [0x12ab, 0xfedc, 0xff]
    let digits := "aB12DcfEFf00".toList
    let tail := "xé".toList
    (words.length = layout.length ∧ Spells digits words) ∧
      decode (String.ofList (digits ++ tail)) layout = .ok (layout.zip words) ∧
      ∃ update, Update.ofDump (table (layout.zip words)) = .ok update ∧
        ∀ register, Latest (·.1 = register) (fun entry word ↦ entry = (register, word))
          (layout.zip words) (update.get register) :=
  have hs : Spells "aB12DcfEFf00".toList [0x12ab, 0xfedc, 0xff] := rfl
  ⟨⟨rfl, hs⟩, sample_of_spells rfl hs "xé".toList⟩

theorem Spells.le_of_head {words : List Word} {word : Word} (h : Spells digits (word :: words))
    (he : digits.head? = some 'E') : 0xe0 ≤ word.toNat % 256 := by
  have hb : (UInt8.ofNat (word.toNat % 256)).toNat = word.toNat % 256 := by
    rw [UInt8.toNat_ofNat', Nat.mod_eq_of_lt (Nat.mod_lt _ (by decide))]
  have hd : (digits.map Char.toLower).head? = some (Hex.digit (word.toNat % 256 / 16)) := by
    rw [h, ← hb]
    rfl
  rw [List.head?_map, he] at hd
  have hv : Hex.digitValue? 'e' = some (word.toNat % 256 / 16) := by
    rw [← Hex.digitValue?_digit (n := word.toNat % 256 / 16) (by omega)]
    exact congrArg Hex.digitValue? (Option.some.inj hd)
  have : 14 = word.toNat % 256 / 16 := Option.some.inj hv
  omega

end RegisterBlock

namespace RemoteSession

variable {session : RemoteSession} {connection : Connection} {reply : String}

theorem Does.layout_eq {call : Call} {exchanges : List Exchange}
    {result : Except SessionError Unit} {after : RemoteSession}
    (h : session.Does call exchanges result after) (hn : ∀ settings, call ≠ .configure settings) :
    after.layout = session.layout := by
  cases h with
  | configured settings => exact absurd rfl (hn settings)
  | unreachable | notGreeted | greeted | unattached | idle | acted | detached => rfl

theorem layout_configure (settings : Settings) (h : session.layout = Register.all) :
    (configure settings session).2.layout = Register.all := by
  unfold configure RegisterBlock.layout?
  split
  · rfl
  · exact h

theorem layout_perform (call : Call) (h : session.layout = Register.all) :
    (Debugger.perform call session).2.layout = Register.all := by
  by_cases hc : ∃ settings, call = .configure settings
  · obtain ⟨settings, rfl⟩ := hc
    exact layout_configure settings h
  · obtain ⟨exchanges, hd⟩ := session.exists_does call
    rw [hd.layout_eq fun settings he ↦ hc ⟨settings, he⟩, h]

theorem layout_afterCalls (calls : List Call) (h : session.layout = Register.all) :
    (Debugger.afterCalls calls session).layout = Register.all := by
  induction calls generalizing session with
  | nil => exact h
  | cons call calls ih => exact ih (layout_perform call h)

theorem dump_of_request (hc : session.connection = some connection)
    (hr : (Link.request .registers ⟨session.wire, connection⟩).1 = .ok reply) :
    (dump session).1 = readRegisters session.layout reply := by
  rw [dump, Attempt.bind_apply, onConnection_of_some _ hc, hr]
  simp only [Attempt.bind_apply, Attempt.get_apply, Attempt.ofExcept_apply]

theorem readRegisters_of_error (layout : List Register) (he : reply.toList.head? = some 'E') :
    readRegisters layout reply = .error (.rejected "g" reply) :=
  if_pos he

theorem exists_readRegisters_iff (layout : List Register) (reply : String) :
    (∃ text, readRegisters layout reply = .ok text) ↔
      reply.toList.head? ≠ some 'E' ∧
        RegisterBlock.Readable (Text.utf8 reply) layout.length := by
  rw [← RegisterBlock.exists_decode_iff]
  by_cases he : reply.toList.head? = some 'E'
  · simp [readRegisters_of_error layout he, he]
  · rw [readRegisters, if_neg he]
    cases RegisterBlock.decode reply layout <;> simp [Except.map, he]

theorem readRegisters_of_spells {registers : Registers} {digits : List Char}
    (hs : RegisterBlock.Spells digits registers.values) (he : digits.head? ≠ some 'E')
    (tail : List Char) :
    ∃ text update, readRegisters Register.all (String.ofList (digits ++ tail)) = .ok text ∧
      Update.ofDump text = .ok update ∧
      ∀ register, update.get register = some (registers.get register) := by
  have hv : RegisterBlock.Spells digits (registers.entries.map Prod.snd) := hs
  have hd : RegisterBlock.decode (String.ofList (digits ++ tail)) Register.all =
      .ok registers.entries := hv.decode_eq tail
  have hn : digits ≠ [] := by
    have hl : digits.length = 24 := hs.length_eq
    exact List.ne_nil_of_length_pos (by omega)
  have hh : (String.ofList (digits ++ tail)).toList.head? ≠ some 'E' := by
    rwa [String.toList_ofList, List.head?_append_of_ne_nil _ hn]
  refine ⟨_, _, ?_, RegisterBlock.ofDump_table registers.entries, fun register ↦ ?_⟩
  · rw [readRegisters, if_neg hh, hd]
    rfl
  · cases register <;> rfl

/-- A session that reads the digits of all registers dumps them, in either letter case, unless an
upper-case `E` is the first of them: then it takes them for an error. It dumps no reply that does
not begin with digits, but for plus signs where registers begin. -/
theorem dump_of_reply {wire : Wire} {calls : List Call}
    (hs : Debugger.afterCalls calls { wire } = session) (hc : session.connection = some connection)
    (hr : (Link.request .registers ⟨session.wire, connection⟩).1 = .ok reply) :
    (∀ (registers : Registers) (digits tail : List Char),
      RegisterBlock.Spells digits registers.values → reply = String.ofList (digits ++ tail) →
        (digits.head? ≠ some 'E' ∧ ∃ text update, (dump session).1 = .ok text ∧
          Update.ofDump text = .ok update ∧
          ∀ register, update.get register = some (registers.get register)) ∨
        (digits.head? = some 'E' ∧ 0xe0 ≤ registers.af.toNat % 256 ∧
          (dump session).1 = .error (.rejected "g" reply))) ∧
      ((∃ text, (dump session).1 = .ok text) ↔ reply.toList.head? ≠ some 'E' ∧
        RegisterBlock.Readable (Text.utf8 reply) Register.all.length) := by
  have hl : session.layout = Register.all := hs ▸ layout_afterCalls calls rfl
  rw [dump_of_request hc hr, hl]
  refine ⟨?_, exists_readRegisters_iff Register.all reply⟩
  intro registers digits tail hd hreply
  subst hreply
  by_cases he : digits.head? = some 'E'
  · have hh : (String.ofList (digits ++ tail)).toList.head? = some 'E' := by
      rw [String.toList_ofList, List.head?_append, he]
      rfl
    exact .inr ⟨he, RegisterBlock.Spells.le_of_head hd he, readRegisters_of_error _ hh⟩
  · exact .inl ⟨he, readRegisters_of_spells hd he tail⟩

theorem dump_of_mixed_case :
    let replies := ["hwbreak+", "S05", "1", "f0E11300D8004d01feFF0001xxxx"]
    let wire : Wire :=
      { listening := [⟨"localhost", 1337⟩], reactions := replies.map Reaction.reply }
    let session : RemoteSession := Debugger.afterCalls [.attach defaultEndpoint] { wire }
    let registers : Registers := ⟨0xe1f0, 0x13, 0xd8, 0x14d, 0xfffe, 0x100⟩
    ∃ connection, session.connection = some connection ∧
      (Link.request .registers ⟨session.wire, connection⟩).1 =
        .ok "f0E11300D8004d01feFF0001xxxx" ∧
      ∃ text update, (dump session).1 = .ok text ∧ Update.ofDump text = .ok update ∧
        ∀ register, update.get register = some (registers.get register) := by
  intro replies wire session registers
  have hd : RegisterBlock.Spells "f0E11300D8004d01feFF0001".toList
    (⟨0xe1f0, 0x13, 0xd8, 0x14d, 0xfffe, 0x100⟩ : Registers).values := rfl
  have hreply : "f0E11300D8004d01feFF0001xxxx" =
    String.ofList ("f0E11300D8004d01feFF0001".toList ++ "xxxx".toList) := rfl
  have hc : session.connection = some ⟨0, ⟨[], some .wouldBlock⟩, none⟩ := rfl
  have hr : (Link.request .registers ⟨session.wire, ⟨0, ⟨[], some .wouldBlock⟩, none⟩⟩).1 =
    .ok "f0E11300D8004d01feFF0001xxxx" := rfl
  obtain ⟨-, h⟩ | ⟨h, -⟩ := (dump_of_reply rfl hc hr).1 _ _ _ hd hreply
  · exact ⟨_, hc, hr, h⟩
  · cases h

theorem upper_case_block_refused :
    let replies := ["hwbreak+", "S05", "1", "E00000000000000000000000"]
    let wire : Wire :=
      { listening := [⟨"localhost", 1337⟩], reactions := replies.map Reaction.reply }
    let session : RemoteSession := Debugger.afterCalls [.attach defaultEndpoint] { wire }
    RegisterBlock.Spells "E00000000000000000000000".toList
        ({ Registers.zero with af := 0xe0 } : Registers).values ∧
      session.isAttached = true ∧
      (dump session).1 = .error (.rejected "g" "E00000000000000000000000") :=
  ⟨rfl, rfl, rfl⟩

end RemoteSession

end Lockstep
