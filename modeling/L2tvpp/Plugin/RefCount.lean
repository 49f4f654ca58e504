import L2tvpp.Plugin.Consistency

/-!
# Tunnel reference counts

`n_sessions` counts the sessions of a tunnel as long as every session delete
names the tunnel the session is on.  The delete path looks the session up by
tunnel id and session id only, so a request may name another tunnel with the
same tunnel id; then the wrong counter goes down.
-/

namespace L2tvpp.Plugin

open L2tvpp.Lib

def onTunnel (tunnelIndex : Nat) (sess : L2tvppSession) : Bool :=
  sess.tunnelIndex == tunnelIndex

structure CountExact (v : Vpp) : Prop where
  count : ∀ {index : Nat} {t : L2tvppTunnel},
    v.lm.tunnels.elt? index = some t →
    t.nSessions.toNat = v.lm.sessions.count (onTunnel index)
  tunnel : ∀ {index : Nat} {sess : L2tvppSession},
    v.lm.sessions.elt? index = some sess →
    ∃ t, v.lm.tunnels.elt? sess.tunnelIndex = some t ∧
      t.localTid = sess.localTid

/-- A session delete that finds a session names the tunnel it is on. -/
def namesOwnTunnel (v : Vpp) : Call → Bool
  | .sessionAddDel tunnelIndex localSid _ _ _ false =>
      match v.lm.tunnels.elt? tunnelIndex with
      | none => true
      | some t =>
          match v.lm.sessionByKey.lookup
            (l2tvppSessionKey t.localTid localSid) with
          | none => true
          | some index =>
              match v.lm.sessions.elt? index with
              | none => true
              | some sess => sess.tunnelIndex == tunnelIndex
  | _ => true

namespace CountExact

variable {P : Policies} {v v' : Vpp}

theorem initial (hwInterfaces : Pool HwInterface)
    (swInterfaces : Pool SwInterface) :
    CountExact (Vpp.initial hwInterfaces swInterfaces) := by
  constructor <;> simp [Vpp.initial, L2tvppMain.init]

/-- The sessions of a tunnel have distinct session ids, so there are at most
as many as ids. -/
theorem count_le (hstore : StoreInv v) (h : CountExact v) {index : Nat}
    {t : L2tvppTunnel} (ht : v.lm.tunnels.elt? index = some t) :
    v.lm.sessions.count (onTunnel index) ≤ 65536 := by
  have htid : ∀ {i : Nat} {sess : L2tvppSession},
      v.lm.sessions.elt? i = some sess → onTunnel index sess = true →
      sess.localTid = t.localTid := by
    intro i sess hsess hon
    obtain ⟨t', ht', heq⟩ := h.tunnel hsess
    rw [beq_iff_eq.mp hon, ht] at ht'
    cases ht'
    exact heq.symm
  apply Pool.count_le v.lm.sessions fun sess => sess.localSid.toNat
  · intro sess
    exact sess.localSid.isLt
  · intro i j sess sess' hi hj hon hon' hsid
    apply hstore.byKey.index_eq hi hj
    simp only [L2tvppSession.key, htid hi hon, htid hj hon',
      BitVec.eq_of_toNat_eq hsid]

theorem of_lm (h : CountExact v) (hlm : v'.lm = v.lm) : CountExact v' where
  count := by
    rw [hlm]
    exact h.count
  tunnel := by
    rw [hlm]
    exact h.tunnel

theorem of_sameStore (h : CountExact v) (hsame : SameStore v v') :
    CountExact v' where
  count := by
    intro index t ht
    rw [hsame.tunnels] at ht
    rw [hsame.count _ fun _ _ => rfl]
    exact h.count ht
  tunnel := by
    intro index sess hsess
    obtain ⟨csum, hsess'⟩ := hsame.session hsess
    have htunnel := h.tunnel hsess'
    rw [hsame.tunnels]
    exact htunnel

theorem tunnelAdd (h : CountExact v) {localIp peerIp : Ip46}
    {localPort peerPort localTid peerTid : U16} :
    CountExact
      (v.tunnelAdd P localIp peerIp localPort peerPort localTid peerTid) where
  count := by
    intro index t ht
    simp only [Vpp.tunnelAdd, Pool.elt?_get] at ht ⊢
    split at ht
    · rename_i hindex
      cases ht
      symm
      change v.lm.sessions.count (onTunnel index) = 0
      -- no session is on a slot that was free
      rw [Pool.count_eq_zero]
      intro i sess hsess
      obtain ⟨t', ht', -⟩ := h.tunnel hsess
      rw [onTunnel, beq_eq_false_iff_ne, hindex]
      rintro heq
      rw [heq] at ht'
      simp at ht'
    · exact h.count ht
  tunnel := by
    intro index sess hsess
    obtain ⟨t, ht, htid⟩ := h.tunnel hsess
    exact ⟨t, Pool.elt?_get_of_live P.tunnels v.lm.tunnels _ ht, htid⟩

theorem no_session (h : CountExact v) {index : Nat} {t : L2tvppTunnel}
    (ht : v.lm.tunnels.elt? index = some t) (hzero : t.nSessions = 0)
    {i : Nat} {sess : L2tvppSession}
    (hsess : v.lm.sessions.elt? i = some sess) : sess.tunnelIndex ≠ index := by
  have hcount : v.lm.sessions.count (onTunnel index) = 0 := by
    rw [← h.count ht, hzero]
    rfl
  have htest := (Pool.count_eq_zero v.lm.sessions).mp hcount i sess hsess
  exact beq_eq_false_iff_ne.mp htest

theorem tunnelDel (h : CountExact v) {index : Nat} {t : L2tvppTunnel}
    (ht : v.lm.tunnels.elt? index = some t) (hzero : t.nSessions = 0) :
    CountExact (v.tunnelDel index) where
  count := by
    intro i t' ht'
    simp only [Vpp.tunnelDel, Pool.elt?_put] at ht' ⊢
    split at ht'
    · contradiction
    · exact h.count ht'
  tunnel := by
    intro i sess hsess
    obtain ⟨t', ht', htid⟩ := h.tunnel hsess
    refine ⟨t', ?_, htid⟩
    simp only [Vpp.tunnelDel, Pool.elt?_put]
    rw [if_neg (h.no_session ht hzero hsess), ht']

theorem sessionAdd (hstore : StoreInv v) (h : CountExact v)
    {tunnelIndex : Nat} {t : L2tvppTunnel} {localSid peerSid : U16}
    {acfc pfc : U8} (ht : v.lm.tunnels.elt? tunnelIndex = some t) :
    CountExact (v.sessionAdd P tunnelIndex t localSid peerSid acfc pfc) where
  count := by
    intro index t' ht'
    have hcount : (v.sessionAdd P tunnelIndex t localSid peerSid acfc
        pfc).lm.sessions.count (onTunnel index) =
        v.lm.sessions.count (onTunnel index) +
          if tunnelIndex == index then 1 else 0 :=
      Pool.count_get P.sessions v.lm.sessions _ _
    rw [hcount]
    rw [sessionAdd_tunnels] at ht'
    split at ht'
    · rename_i hindex
      subst hindex
      rw [ht, Option.map_some] at ht'
      cases ht'
      have hle := count_le hstore h ht
      have hold := h.count ht
      have hone : (1 : U32).toNat = 1 := rfl
      rw [beq_self_eq_true, if_pos rfl, BitVec.toNat_add, hone]
      omega
    · rename_i hindex
      have hne : (tunnelIndex == index) = false :=
        beq_eq_false_iff_ne.mpr (Ne.symm hindex)
      rw [hne]
      exact h.count ht'
  tunnel := by
    have hlive : ∀ {i : Nat} {tunnel : L2tvppTunnel},
        v.lm.tunnels.elt? i = some tunnel → ∃ t',
        (v.sessionAdd P tunnelIndex t localSid peerSid acfc
          pfc).lm.tunnels.elt? i = some t' ∧
        t'.localTid = tunnel.localTid := by
      intro i tunnel htunnel
      rw [sessionAdd_tunnels, htunnel]
      split
      · exact ⟨_, rfl, rfl⟩
      · exact ⟨_, rfl, rfl⟩
    intro index sess hsess
    rw [sessionAdd_sessions] at hsess
    split at hsess
    · cases hsess
      exact hlive ht
    · obtain ⟨tunnel, htunnel, htid⟩ := h.tunnel hsess
      obtain ⟨t', ht', heq⟩ := hlive htunnel
      exact ⟨t', ht', heq.trans htid⟩

theorem sessionDel (h : CountExact v) {key : U64} {index : Nat}
    {sess : L2tvppSession} (hsess : v.lm.sessions.elt? index = some sess) :
    CountExact (v.sessionDel sess.tunnelIndex key index sess) where
  count := by
    intro i t' ht'
    have hcount : (v.sessionDel sess.tunnelIndex key index
        sess).lm.sessions.count (onTunnel i) =
        v.lm.sessions.count (onTunnel i) -
          if onTunnel i sess then 1 else 0 := by
      rw [sessionDel_lm]
      exact Pool.count_put v.lm.sessions _ hsess
    rw [hcount]
    rw [sessionDel_tunnels] at ht'
    split at ht'
    · rename_i hindex
      subst hindex
      obtain ⟨t, ht, rfl⟩ := Option.map_eq_some_iff.mp ht'
      have hon : onTunnel sess.tunnelIndex sess = true := beq_self_eq_true _
      have hpos := Pool.count_pos v.lm.sessions hsess hon
      have hold := h.count ht
      have hlt := t.nSessions.isLt
      have hone : (1 : U32).toNat = 1 := rfl
      rw [hon, if_pos rfl, BitVec.toNat_sub, hone]
      omega
    · rename_i hindex
      have hoff : onTunnel i sess = false :=
        beq_eq_false_iff_ne.mpr (Ne.symm hindex)
      rw [hoff]
      exact h.count ht'
  tunnel := by
    intro i other hother
    rw [sessionDel_sessions] at hother
    split at hother
    · contradiction
    · obtain ⟨t, ht, htid⟩ := h.tunnel hother
      rw [sessionDel_tunnels, ht]
      split
      · exact ⟨_, rfl, htid⟩
      · exact ⟨_, rfl, htid⟩

theorem storeStep (hstore : StoreInv v) (h : CountExact v) {call : Call}
    (hguard : namesOwnTunnel v call = true)
    (hstep : StoreStep P v call v') : CountExact v' := by
  cases hstep with
  | same hsame => exact h.of_sameStore hsame
  | tunnelAdd hfind => exact h.tunnelAdd
  | tunnelDel hfind hzero =>
      exact h.tunnelDel (l2tvppTunnelFind_some hfind).1 hzero
  | sessionAdd ht hkey => exact sessionAdd hstore h ht
  | sessionDel ht hkey hsess =>
      simp only [namesOwnTunnel, ht, hkey, hsess, beq_iff_eq] at hguard
      subst hguard
      exact h.sessionDel hsess
  | interfaceAdd => exact h.of_lm rfl
  | interfaceDel howns => exact h.of_lm (vnetDeleteHwInterface_lm v _)

end CountExact

/-- Whole runs: as long as every delete names the session's own tunnel, the
counters are exact, stay far from wrapping, every session has its tunnel, and
a tunnel that a delete would remove has no session. -/
theorem countExact_of_namesOwnTunnel (P : Policies)
    (hwInterfaces : Pool HwInterface) (swInterfaces : Pool SwInterface)
    (calls : List Call)
    (hguard : Guarded (step P) namesOwnTunnel
      (Vpp.initial hwInterfaces swInterfaces) calls) :
    let v := runCalls P hwInterfaces swInterfaces calls
    (∀ index t, v.lm.tunnels.elt? index = some t →
      t.nSessions.toNat = v.lm.sessions.count (onTunnel index) ∧
      t.nSessions.toNat ≤ 65536) ∧
    (∀ index sess, v.lm.sessions.elt? index = some sess →
      ∃ t, v.lm.tunnels.elt? sess.tunnelIndex = some t) ∧
    (∀ localIp peerIp localPort peerPort localTid peerTid out v',
      l2tvppTunnelAddDel P v localIp peerIp localPort peerPort localTid peerTid
        false = .ok (out, v') →
      ∀ index t,
        l2tvppTunnelFind v.lm peerIp peerPort localTid = some (index, t) →
        ∀ i sess, v.lm.sessions.elt? i = some sess →
          sess.tunnelIndex ≠ index) := by
  intro v
  obtain ⟨hstore, hcount⟩ : StoreInv v ∧ CountExact v :=
    run_invariant_of_guarded (step P) (fun v => StoreInv v ∧ CountExact v)
      (fun v call _ hcall h =>
        ⟨h.1.storeStep (storeStep_step P v call),
          CountExact.storeStep h.1 h.2 hcall (storeStep_step P v call)⟩)
      ⟨StoreInv.initial hwInterfaces swInterfaces,
        CountExact.initial hwInterfaces swInterfaces⟩ hguard
  refine ⟨?_, ?_, ?_⟩
  · intro index t ht
    have hle := CountExact.count_le hstore hcount ht
    exact ⟨hcount.count ht, (hcount.count ht).trans_le hle⟩
  · intro index sess hsess
    obtain ⟨t, ht, -⟩ := hcount.tunnel hsess
    exact ⟨t, ht⟩
  · intro localIp peerIp localPort peerPort localTid peerTid out v' hdel index t
      hfind i sess hsess
    rcases l2tvppTunnelAddDel_ok hdel with
      ⟨hfalse, -⟩ | ⟨-, -, index', t', hfind', hzero, -⟩
    · contradiction
    · rw [hfind] at hfind'
      cases hfind'
      exact hcount.no_session (l2tvppTunnelFind_some hfind).1 hzero hsess

def sharedTid : List Call :=
  [.tunnelAddDel (Ip46.ofIp4 0x0a000001) (Ip46.ofIp4 0x0a000002) 1701 1701 100
    200 true,
   .tunnelAddDel (Ip46.ofIp4 0x0a000001) (Ip46.ofIp4 0x0a000003) 1701 1701 100
    300 true,
   .sessionAddDel 0 7 8 0 0 true]

theorem countExact_of_namesOwnTunnel_sharedTid :
    let v := runCalls Policies.lifo Pool.empty Pool.empty
      (sharedTid ++ [.sessionAddDel 0 7 8 0 0 false])
    ∀ index t, v.lm.tunnels.elt? index = some t →
      t.nSessions.toNat = v.lm.sessions.count (onTunnel index) ∧
      t.nSessions.toNat ≤ 65536 :=
  (countExact_of_namesOwnTunnel Policies.lifo Pool.empty Pool.empty
    (sharedTid ++ [.sessionAddDel 0 7 8 0 0 false]) (by decide)).1

/-- The delete names the second tunnel, whose counter wraps below zero; the
first one keeps counting a session that is gone. -/
theorem nSessions_wraps_sharedTid :
    let v := runCalls Policies.lifo Pool.empty Pool.empty
      (sharedTid ++ [.sessionAddDel 1 7 8 0 0 false])
    (v.lm.tunnels.elt? 0).map L2tvppTunnel.nSessions = some 1 ∧
    (v.lm.tunnels.elt? 1).map L2tvppTunnel.nSessions = some 0xffffffff ∧
    v.lm.sessions.count (onTunnel 0) = 0 ∧
    v.lm.sessions.count (onTunnel 1) = 0 ∧
    ¬ (∀ index t, v.lm.tunnels.elt? index = some t →
      t.nSessions.toNat = v.lm.sessions.count (onTunnel index)) := by
  intro v
  have hfirst : (v.lm.tunnels.elt? 0).map L2tvppTunnel.nSessions = some 1 := by
    decide
  have hnone : v.lm.sessions.count (onTunnel 0) = 0 := by decide
  refine ⟨hfirst, by decide, hnone, by decide, ?_⟩
  intro hall
  obtain ⟨t, ht, hcount⟩ := Option.map_eq_some_iff.mp hfirst
  have hexact := hall 0 t ht
  rw [hcount, hnone] at hexact
  contradiction

end L2tvpp.Plugin
