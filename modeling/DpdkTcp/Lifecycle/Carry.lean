import DpdkTcp.Lifecycle.Deeds

/-!
# What a call carries over

An invariant that relates a connection to what has happened to it goes from
step to step through a relation between the record before and the record after.
`Carries` asks what the deeds need for such a relation: that the allowed edits
keep to it, and what is known of a connection that was just opened. The work of
a call then leads every live connection back either to an earlier record of the
same connection or to a new one.
-/

namespace DpdkTcp

theorem Edit.ne_insert_of_plain (edit : Edit) (plain : edit.plain = true) (opts : ConnectOpts) :
    edit ≠ .insert opts := by
  rintro rfl
  cases plain

namespace Engine

/-- The allowed edits keep to `Keeps`, and `New` holds of a connection just opened. -/
structure Carries (allowed : Edit → Prop) (Keeps : TcpConn → TcpConn → Prop)
    (New : TcpConn → Prop) : Prop where
  refl : ∀ conn, Keeps conn conn
  trans : ∀ {first second third}, Keeps first second → Keeps second third → Keeps first third
  edit : ∀ {edit conn}, allowed edit → edit.Alone conn → Keeps conn (edit.apply conn)
  arm : ∀ {conn kind id}, (kind = .tlp → conn.tlpArmGatePasses = true) →
    Keeps conn (conn.armed kind id)
  stop : ∀ {conn kind id}, conn.timerOf kind = some id → Keeps conn (conn.struck kind id)
  forget : ∀ conn id, Keeps conn (conn.withoutTimer id)
  insert : ∀ (engine : Engine) tuple iss ourMss {opts} nowNs, allowed (.insert opts) →
    New (engine.connecting tuple iss ourMss opts nowNs)
  new : ∀ {first second}, New first → Keeps first second → New second

/-- Fewer edits are carried over all the more. -/
theorem Carries.mono {allowed fewer : Edit → Prop} {Keeps : TcpConn → TcpConn → Prop}
    {New : TcpConn → Prop} (carries : Carries allowed Keeps New)
    (bars : ∀ edit, fewer edit → allowed edit) : Carries fewer Keeps New :=
  { carries with
    edit := fun isAllowed alone => carries.edit (bars _ isAllowed) alone
    insert := fun engine tuple iss ourMss _ nowNs isAllowed =>
      carries.insert engine tuple iss ourMss nowNs (bars _ isAllowed) }

/-- The connection of a handle is an earlier record of it, carried over, or a new connection. -/
def Carried (Keeps : TcpConn → TcpConn → Prop) (New : TcpConn → Prop) (handle : ConnHandle)
    (before after : Engine) (conn : TcpConn) : Prop :=
  (after.record.incarnation handle = before.record.incarnation handle ∧
      ∃ earlier, before.flowTable.get handle = some earlier ∧ Keeps earlier conn) ∨
    before.record.incarnation handle < after.record.incarnation handle ∧ New conn

variable {allowed : Edit → Prop} {Keeps : TcpConn → TcpConn → Prop} {New : TcpConn → Prop}
  {handle : ConnHandle} {before after : Engine} {conn : TcpConn}

/-- The incarnations after a deed: those before, and one more where a connection is inserted. -/
theorem Deed.opened (deed : Deed allowed handle before after) :
    after.record.opened = before.record.opened ∨
      after.record.opened = before.record.opened ++ [handle] ∧
        before.flowTable.get handle = none := by
  cases deed with
  | aside _ _ record | edit _ _ _ _ _ _ record | stop _ _ _ _ _ _ record
  | forget _ _ _ _ _ record | remove _ _ _ record => exact .inl (congrArg Prod.snd record)
  | arm kind _ _ _ _ _ _ _ _ record => exact .inl (congrArg Prod.snd record)
  | insert _ _ _ _ _ _ vacant _ _ record => exact .inr ⟨congrArg Prod.snd record, vacant⟩

theorem Deed.incarnation_le (deed : Deed allowed handle before after) (other : ConnHandle) :
    before.record.incarnation other ≤ after.record.incarnation other := by
  rw [Record.incarnation, Record.incarnation]
  rcases deed.opened with same | ⟨more, _⟩
  · rw [same]
  · rw [more, List.count_append]
    exact Nat.le_add_right _ _

/-- One deed carries every connection over. -/
theorem Deed.carried (carries : Carries allowed Keeps New) (deed : Deed allowed handle before after)
    {other : ConnHandle} (live : after.flowTable.get other = some conn) :
    Carried Keeps New other before after conn := by
  have same : after.record.armings.2 = before.record.armings.2 →
      after.record.incarnation other = before.record.incarnation other :=
    fun opened => congrArg (List.count other) opened
  have unmoved : after.record.armings.2 = before.record.armings.2 →
      before.flowTable.get other = some conn → Carried Keeps New other before after conn :=
    fun opened present => .inl ⟨same opened, conn, present, carries.refl conn⟩
  have kept : ∀ {earlier later : TcpConn}, after.record.armings.2 = before.record.armings.2 →
      before.flowTable.get handle = some earlier → Writes handle before after (some later) →
      Keeps earlier later → Carried Keeps New other before after conn := by
    intro earlier later opened present written keeps
    rw [written] at live
    split at live
    · rename_i here
      cases live
      exact .inl ⟨same opened, earlier, here ▸ present, keeps⟩
    · exact unmoved opened live
  cases deed with
  | aside conns _ record => exact unmoved (congrArg Prod.snd record) ((conns other).symm.trans live)
  | edit edit isAllowed present alone written _ record =>
      exact kept (congrArg Prod.snd record) present written (carries.edit isAllowed alone)
  | arm kind nowNs delayUs isAllowed own gate present written _ record =>
      have opened := congrArg Prod.snd record
      exact kept (by exact opened) present written (carries.arm gate)
  | stop kind id present named written _ record =>
      exact kept (congrArg Prod.snd record) present written (carries.stop named)
  | forget id _ present written _ record =>
      exact kept (congrArg Prod.snd record) present written (carries.forget _ id)
  | remove present written _ record =>
      rw [written] at live
      split at live
      · cases live
      · exact unmoved (congrArg Prod.snd record) live
  | insert tuple iss ourMss opts nowNs isAllowed vacant written _ record =>
      have opened : after.record.opened = before.record.opened ++ [handle] :=
        congrArg Prod.snd record
      rw [written] at live
      split at live
      · rename_i here
        cases live
        refine .inr ⟨?_, carries.insert before tuple iss ourMss nowNs isAllowed⟩
        rw [here, Record.incarnation, Record.incarnation, opened, List.count_append,
          List.count_singleton_self]
        exact Nat.lt_succ_self _
      · rename_i elsewhere
        refine .inl ⟨?_, conn, live, carries.refl conn⟩
        rw [Record.incarnation, Record.incarnation, opened, List.count_append,
          List.count_singleton, if_neg (by simpa using Ne.symm elsewhere), Nat.add_zero]

/-- So does any number of deeds. -/
theorem Work.carried (carries : Carries allowed Keeps New) (work : Work allowed before after)
    {other : ConnHandle} (live : after.flowTable.get other = some conn) :
    Carried Keeps New other before after conn := by
  have grows : before.record.incarnation other ≤ after.record.incarnation other ∧
      ∀ conn, after.flowTable.get other = some conn →
        Carried Keeps New other before after conn := by
    clear live
    induction work with
    | refl => exact ⟨Nat.le_refl _, fun conn live => .inl ⟨rfl, conn, live, carries.refl conn⟩⟩
    | tail _ deed ih =>
        rcases deed with ⟨handle, deed⟩
        have later := deed.incarnation_le other
        refine ⟨ih.1.trans later, fun conn live => ?_⟩
        rcases deed.carried carries live with ⟨same, middle, there, kept⟩ | ⟨newer, isNew⟩
        · rcases ih.2 middle there with ⟨before, earlier, present, keeps⟩ | ⟨newer, isNew⟩
          · exact .inl ⟨same.trans before, earlier, present, carries.trans keeps kept⟩
          · exact .inr ⟨same ▸ newer, carries.new isNew kept⟩
        · exact .inr ⟨Nat.lt_of_le_of_lt ih.1 newer, isNew⟩
  exact grows.2 conn live

/-- Only an insertion counts as a new connection. -/
theorem Work.incarnation (work : Work allowed before after)
    (bars : ∀ opts, ¬ allowed (.insert opts)) (other : ConnHandle) :
    after.record.incarnation other = before.record.incarnation other := by
  induction work with
  | refl => rfl
  | tail _ deed ih =>
      rcases deed with ⟨handle, deed⟩
      refine Eq.trans ?_ ih
      rw [Record.incarnation, Record.incarnation]
      refine congrArg (List.count other) ?_
      cases deed with
      | aside _ _ record | edit _ _ _ _ _ _ record | stop _ _ _ _ _ _ record
      | forget _ _ _ _ _ record | remove _ _ _ record => exact congrArg Prod.snd record
      | arm kind _ _ _ _ _ _ _ _ record => exact congrArg Prod.snd record
      | insert _ _ _ opts _ isAllowed => exact absurd isAllowed (bars opts)

end Engine

/-- Only `connect` opens connections. -/
theorem Host.step_incarnation {host : Host} {op : EngineOp}
    (besideConnect : ∀ tuple iss ourMss opts synSent nowNs,
      op ≠ .connect tuple iss ourMss opts synSent nowNs) (other : ConnHandle) :
    (host.step op).engine.record.incarnation other = host.engine.record.incarnation other := by
  have worked : (∀ nowNs, op ≠ .advance nowNs) → (∀ opts, ¬ host.permits op (.insert opts) = true) →
      (host.step op).engine.record.incarnation other = host.engine.record.incarnation other :=
    fun still bars => (host.step_work still).incarnation bars other
  cases op with
  | advance nowNs => rfl
  | connect tuple iss ourMss opts synSent nowNs => exact absurd rfl (besideConnect _ _ _ _ _ _)
  | send | close | segment | fireNext | flush | reap | twSkip => exact worked nofun fun _ => nofun

/-- A step that is no segment for the connection carries it over. -/
theorem Host.step_carried {host : Host} {op : EngineOp} {allowed : Edit → Prop}
    {Keeps : TcpConn → TcpConn → Prop} {New : TcpConn → Prop} {handle : ConnHandle}
    {conn : TcpConn} (carries : Engine.Carries allowed Keeps New)
    (bars : (∀ target seg mbufCtx env, op ≠ .segment target seg mbufCtx env) →
      ∀ edit, host.permits op edit = true → allowed edit)
    (beside : ∀ seg mbufCtx env, op ≠ .segment handle seg mbufCtx env)
    (live : (host.step op).engine.flowTable.get handle = some conn) :
    Engine.Carried Keeps New handle host.engine (host.step op).engine conn := by
  have worked : (∀ nowNs, op ≠ .advance nowNs) →
      (∀ target seg mbufCtx env, op ≠ .segment target seg mbufCtx env) →
      Engine.Carried Keeps New handle host.engine (host.step op).engine conn :=
    fun still quiet => (host.step_work still).carried (carries.mono (bars quiet)) live
  cases op with
  | advance nowNs => exact .inl ⟨rfl, conn, live, carries.refl conn⟩
  | segment target seg mbufCtx env =>
      have deeds : Engine.Deeds (fun edit => ∀ opts, edit ≠ .insert opts) target host.engine
          (host.engine.tcpInput target seg mbufCtx env) :=
        Engine.tcpInput_deeds Edit.ne_insert_of_plain host.engine target (fun _ => nofun)
          (fun _ _ _ _ => nofun) (fun _ => nofun) (fun _ _ => nofun) (fun _ _ => nofun) seg mbufCtx
          env
      have elsewhere : handle ≠ target := fun same => beside seg mbufCtx env (by rw [same])
      exact .inl ⟨deeds.work.incarnation (fun opts isAllowed => isAllowed opts rfl) handle, conn,
        (deeds.others elsewhere).symm.trans live, carries.refl conn⟩
  | connect | send | close | fireNext | flush | reap | twSkip =>
      exact worked nofun fun _ _ _ _ => nofun

end DpdkTcp
