import L2tvpp.Plugin.Calls

/-!
# The store is consistent

The two pools, the hash by key and the vector by interface say the same after
every sequence of calls.
-/

namespace L2tvpp.Plugin

open L2tvpp.Lib

def L2tvppSession.key (sess : L2tvppSession) : U64 :=
  l2tvppSessionKey sess.localTid sess.localSid

structure StoreInv (v : Vpp) : Prop where
  tunnel_unique : ∀ {i j : Nat} {t t' : L2tvppTunnel},
    v.lm.tunnels.elt? i = some t → v.lm.tunnels.elt? j = some t' →
    t.peerIp = t'.peerIp → t.peerPort = t'.peerPort →
    t.localTid = t'.localTid → i = j
  byKey : v.lm.sessions.Indexes L2tvppSession.key v.lm.sessionByKey.lookup
  bySwIfIndex :
    v.lm.sessions.Indexes L2tvppSession.swIfIndex v.lm.sessionIndexOf
  localIp4s_nodup : v.lm.localIp4s.Nodup
  localIp_mem : ∀ {index : Nat} {t : L2tvppTunnel},
    v.lm.tunnels.elt? index = some t → t.localIp.ip4 ∈ v.lm.localIp4s
  hwInterface : ∀ {index : Nat} {sess : L2tvppSession},
    v.lm.sessions.elt? index = some sess →
    ∃ hi, v.hwInterfaces.elt? sess.hwIfIndex = some hi ∧
      hi.swIfIndex = sess.swIfIndex
  swInterface : ∀ {index : Nat} {sess : L2tvppSession},
    v.lm.sessions.elt? index = some sess →
    ∃ si, v.swInterfaces.elt? sess.swIfIndex = some si

namespace StoreInv

variable {P : Policies} {v v' : Vpp}

theorem initial (hwInterfaces : Pool HwInterface)
    (swInterfaces : Pool SwInterface) :
    StoreInv (Vpp.initial hwInterfaces swInterfaces) := by
  constructor <;>
    simp [Vpp.initial, L2tvppMain.init, L2tvppMain.sessionIndexOf,
      Pool.Indexes]

/-- A session that is found is not freed. -/
theorem not_freed (h : StoreInv v) (key : U64) (index : Nat)
    (hkey : v.lm.sessionByKey.lookup key = some index)
    (hnone : v.lm.sessions.elt? index = none) : False := by
  obtain ⟨sess, hsess, -⟩ := h.byKey.some_iff.mp hkey
  rw [hnone] at hsess
  contradiction

theorem index_eq_of_hwIfIndex (h : StoreInv v) {i j : Nat}
    {sess sess' : L2tvppSession} (hi : v.lm.sessions.elt? i = some sess)
    (hj : v.lm.sessions.elt? j = some sess')
    (heq : sess.hwIfIndex = sess'.hwIfIndex) : i = j := by
  obtain ⟨hw, hhw, hsw⟩ := h.hwInterface hi
  obtain ⟨hw', hhw', hsw'⟩ := h.hwInterface hj
  rw [heq, hhw'] at hhw
  cases hhw
  exact h.bySwIfIndex.index_eq hi hj (hsw.symm.trans hsw')

theorem nextIndex_fresh (h : StoreInv v) {index : Nat}
    {sess : L2tvppSession} (hsess : v.lm.sessions.elt? index = some sess) :
    sess.swIfIndex ≠ v.swInterfaces.nextIndex P.swInterfaces := by
  intro heq
  obtain ⟨si, hsi⟩ := h.swInterface hsess
  rw [heq] at hsi
  simp at hsi

/-! ## One step -/

theorem of_sameStore (h : StoreInv v) (hsame : SameStore v v') :
    StoreInv v' where
  tunnel_unique := by
    rw [hsame.tunnels]
    exact h.tunnel_unique
  byKey := by
    rw [hsame.sessionByKey]
    exact hsame.indexes (fun _ _ => rfl) h.byKey
  bySwIfIndex := by
    rw [funext hsame.sessionIndexOf]
    exact hsame.indexes (fun _ _ => rfl) h.bySwIfIndex
  localIp4s_nodup := by
    rw [hsame.localIp4s]
    exact h.localIp4s_nodup
  localIp_mem := by
    rw [hsame.localIp4s, hsame.tunnels]
    exact h.localIp_mem
  hwInterface := by
    intro index sess hsess
    obtain ⟨csum, hsess'⟩ := hsame.session hsess
    have hiface := h.hwInterface hsess'
    rw [hsame.hwInterfaces]
    exact hiface
  swInterface := by
    intro index sess hsess
    obtain ⟨csum, hsess'⟩ := hsame.session hsess
    have hiface := h.swInterface hsess'
    rw [hsame.swInterfaces]
    exact hiface

theorem tunnelAdd (h : StoreInv v) {localIp peerIp : Ip46}
    {localPort peerPort localTid peerTid : U16}
    (hfind : l2tvppTunnelFind v.lm peerIp peerPort localTid = none) :
    StoreInv
      (v.tunnelAdd P localIp peerIp localPort peerPort localTid peerTid) where
  tunnel_unique := by
    intro i j t t' hi hj hip hport htid
    simp only [Vpp.tunnelAdd, Pool.elt?_get] at hi hj
    split at hi <;> split at hj
    · simp_all
    · cases hi
      exact absurd ⟨htid.symm, hport.symm, hip.symm⟩
        (l2tvppTunnelFind_none hfind hj)
    · cases hj
      exact absurd ⟨htid, hport, hip⟩ (l2tvppTunnelFind_none hfind hi)
    · exact h.tunnel_unique hi hj hip hport htid
  byKey := h.byKey
  bySwIfIndex := h.bySwIfIndex
  localIp4s_nodup := by
    simp only [Vpp.tunnelAdd, addLocalIp4]
    split
    · exact h.localIp4s_nodup
    · rename_i hnew
      rw [List.nodup_append]
      refine ⟨h.localIp4s_nodup, by simp, ?_⟩
      rintro ip4 hmem other hother rfl
      exact hnew (List.mem_singleton.mp hother ▸ hmem)
  localIp_mem := by
    intro index t ht
    simp only [Vpp.tunnelAdd, Pool.elt?_get, addLocalIp4] at ht ⊢
    split at ht
    · cases ht
      split <;> simp_all
    · have hmem := h.localIp_mem ht
      split
      · exact hmem
      · exact List.mem_append_left _ hmem
  hwInterface := h.hwInterface
  swInterface := h.swInterface

theorem tunnelDel (h : StoreInv v) (index : Nat) :
    StoreInv (v.tunnelDel index) where
  tunnel_unique := by
    intro i j t t' hi hj
    simp only [Vpp.tunnelDel, Pool.elt?_put] at hi hj
    split at hi
    · contradiction
    · split at hj
      · contradiction
      · exact h.tunnel_unique hi hj
  byKey := h.byKey
  bySwIfIndex := h.bySwIfIndex
  localIp4s_nodup := h.localIp4s_nodup
  localIp_mem := by
    intro i t ht
    simp only [Vpp.tunnelDel, Pool.elt?_put] at ht
    split at ht
    · contradiction
    · exact h.localIp_mem ht
  hwInterface := h.hwInterface
  swInterface := h.swInterface

theorem tunnels_modify {tunnels : Pool L2tvppTunnel} {tunnelIndex : Nat}
    {f : L2tvppTunnel → L2tvppTunnel} {index : Nat} {t : L2tvppTunnel}
    (h : (tunnels.modify tunnelIndex f).elt? index = some t)
    (hf : ∀ t, ∃ n, f t = { t with nSessions := n }) :
    ∃ n, tunnels.elt? index = some { t with nSessions := n } := by
  rw [Pool.elt?_modify] at h
  split at h
  · obtain ⟨t', ht', rfl⟩ := Option.map_eq_some_iff.mp h
    obtain ⟨n, hn⟩ := hf t'
    exact ⟨t'.nSessions, by rw [ht', hn]⟩
  · exact ⟨t.nSessions, h⟩

theorem tunnel_unique_modify (h : StoreInv v) {tunnelIndex : Nat}
    {f : L2tvppTunnel → L2tvppTunnel}
    (hf : ∀ t, ∃ n, f t = { t with nSessions := n }) {i j : Nat}
    {t t' : L2tvppTunnel}
    (hi : (v.lm.tunnels.modify tunnelIndex f).elt? i = some t)
    (hj : (v.lm.tunnels.modify tunnelIndex f).elt? j = some t')
    (hip : t.peerIp = t'.peerIp) (hport : t.peerPort = t'.peerPort)
    (htid : t.localTid = t'.localTid) : i = j := by
  obtain ⟨n, hi⟩ := tunnels_modify hi hf
  obtain ⟨n', hj⟩ := tunnels_modify hj hf
  exact h.tunnel_unique hi hj hip hport htid

theorem localIp_mem_modify (h : StoreInv v) {tunnelIndex : Nat}
    {f : L2tvppTunnel → L2tvppTunnel}
    (hf : ∀ t, ∃ n, f t = { t with nSessions := n }) {index : Nat}
    {t : L2tvppTunnel}
    (ht : (v.lm.tunnels.modify tunnelIndex f).elt? index = some t) :
    t.localIp.ip4 ∈ v.lm.localIp4s := by
  obtain ⟨n, ht⟩ := tunnels_modify ht hf
  have hmem := h.localIp_mem ht
  exact hmem

theorem sessionAdd (h : StoreInv v) {tunnelIndex : Nat} {t : L2tvppTunnel}
    {localSid peerSid : U16} {acfc pfc : U8}
    (hkey : v.lm.sessionByKey.lookup
      (l2tvppSessionKey t.localTid localSid) = none) :
    StoreInv (v.sessionAdd P tunnelIndex t localSid peerSid acfc pfc) where
  tunnel_unique := h.tunnel_unique_modify fun _ => ⟨_, rfl⟩
  byKey := h.byKey.get hkey
    (sessionAdd_lookup P v tunnelIndex t localSid peerSid acfc pfc)
  bySwIfIndex := by
    have hnew : v.lm.sessionIndexOf
        (v.swInterfaces.nextIndex P.swInterfaces) = none := by
      rw [Option.eq_none_iff_forall_ne_some]
      intro index hindex
      obtain ⟨sess, hsess, hsw⟩ := h.bySwIfIndex.some_iff.mp hindex
      exact h.nextIndex_fresh hsess hsw
    exact h.bySwIfIndex.get hnew
      (sessionAdd_sessionIndexOf P v tunnelIndex t localSid peerSid acfc pfc)
  localIp4s_nodup := h.localIp4s_nodup
  localIp_mem := h.localIp_mem_modify fun _ => ⟨_, rfl⟩
  hwInterface := by
    intro index sess hsess
    rw [sessionAdd_sessions] at hsess
    split at hsess
    · cases hsess
      exact ⟨_, Pool.elt?_get_nextIndex P.hwInterfaces v.hwInterfaces _, rfl⟩
    · obtain ⟨hi, hhi, hsw⟩ := h.hwInterface hsess
      exact ⟨hi, Pool.elt?_get_of_live P.hwInterfaces v.hwInterfaces _ hhi,
        hsw⟩
  swInterface := by
    intro index sess hsess
    rw [sessionAdd_sessions] at hsess
    split at hsess
    · cases hsess
      exact ⟨_, Pool.elt?_get_nextIndex P.swInterfaces v.swInterfaces _⟩
    · obtain ⟨si, hsi⟩ := h.swInterface hsess
      exact ⟨si, Pool.elt?_get_of_live P.swInterfaces v.swInterfaces _ hsi⟩

/-- The key comes from the tunnel named in the request, but the lookup has
shown that it is the session's own. -/
theorem sessionDel (h : StoreInv v) {tunnelIndex : Nat} {key : U64}
    {index : Nat} {sess : L2tvppSession}
    (hkey : v.lm.sessionByKey.lookup key = some index)
    (hsess : v.lm.sessions.elt? index = some sess) :
    StoreInv (v.sessionDel tunnelIndex key index sess) := by
  have hown : key = sess.key := by
    obtain ⟨sess', hsess', hown⟩ := h.byKey.some_iff.mp hkey
    rw [hsess] at hsess'
    cases hsess'
    exact hown.symm
  obtain ⟨hi, hhi, hsw⟩ := h.hwInterface hsess
  constructor
  · rw [sessionDel_lm]
    exact h.tunnel_unique_modify fun _ => ⟨_, rfl⟩
  · have hlookup := sessionDel_lookup v tunnelIndex key index sess
    rw [hown] at hlookup ⊢
    have hput := h.byKey.put hsess hlookup
    rw [sessionDel_lm] at hput ⊢
    exact hput
  · have hput := h.bySwIfIndex.put hsess
      (sessionDel_sessionIndexOf v tunnelIndex key index sess)
    rw [sessionDel_lm] at hput ⊢
    exact hput
  · rw [sessionDel_lm]
    exact h.localIp4s_nodup
  · rw [sessionDel_lm]
    exact h.localIp_mem_modify fun _ => ⟨_, rfl⟩
  · intro i other hother
    rw [sessionDel_sessions] at hother
    split at hother
    · contradiction
    · rename_i hne
      obtain ⟨hi', hhi', hsw'⟩ := h.hwInterface hother
      refine ⟨hi', ?_, hsw'⟩
      rw [sessionDel_hwInterfaces v tunnelIndex key index sess hhi, if_neg,
        hhi']
      exact fun heq => hne (h.index_eq_of_hwIfIndex hother hsess heq)
  · intro i other hother
    rw [sessionDel_sessions] at hother
    split at hother
    · contradiction
    · rename_i hne
      obtain ⟨si, hsi⟩ := h.swInterface hother
      refine ⟨si, ?_⟩
      rw [sessionDel_swInterfaces v tunnelIndex key index sess hhi, if_neg,
        hsi]
      exact fun heq =>
        hne (h.bySwIfIndex.index_eq hother hsess (heq.trans hsw))

theorem interfaceAdd (h : StoreInv v) : StoreInv (v.interfaceAdd P) where
  tunnel_unique := h.tunnel_unique
  byKey := h.byKey
  bySwIfIndex := h.bySwIfIndex
  localIp4s_nodup := h.localIp4s_nodup
  localIp_mem := h.localIp_mem
  hwInterface := by
    intro index sess hsess
    obtain ⟨hi, hhi, hsw⟩ := h.hwInterface hsess
    exact ⟨hi, Pool.elt?_get_of_live P.hwInterfaces v.hwInterfaces _ hhi, hsw⟩
  swInterface := by
    intro index sess hsess
    obtain ⟨si, hsi⟩ := h.swInterface hsess
    exact ⟨si, Pool.elt?_get_of_live P.swInterfaces v.swInterfaces _ hsi⟩

theorem ownsInterface_false {hwIfIndex : Nat}
    (h : v.ownsInterface hwIfIndex = false) {index : Nat}
    {sess : L2tvppSession} (hsess : v.lm.sessions.elt? index = some sess) :
    sess.hwIfIndex ≠ hwIfIndex ∧
      ∀ hi, v.hwInterfaces.elt? hwIfIndex = some hi →
        sess.swIfIndex ≠ hi.swIfIndex := by
  have hall := List.any_eq_false.mp h (index, sess)
    ((Pool.mem_toList _).mpr hsess)
  simp only [Bool.or_eq_true, beq_iff_eq, not_or] at hall
  refine ⟨hall.1, ?_⟩
  intro hi hhi heq
  exact hall.2 (by rw [hhi, heq]; rfl)

theorem interfaceDel (h : StoreInv v) {hwIfIndex : Nat}
    (howns : v.ownsInterface hwIfIndex = false) :
    StoreInv (vnetDeleteHwInterface v hwIfIndex) := by
  unfold vnetDeleteHwInterface
  split
  · exact h
  · rename_i hi hhi
    constructor
    · exact h.tunnel_unique
    · exact h.byKey
    · exact h.bySwIfIndex
    · exact h.localIp4s_nodup
    · exact h.localIp_mem
    · intro index sess hsess
      obtain ⟨hi', hhi', hsw'⟩ := h.hwInterface hsess
      refine ⟨hi', ?_, hsw'⟩
      rw [Pool.elt?_put, if_neg (ownsInterface_false howns hsess).1, hhi']
    · intro index sess hsess
      obtain ⟨si, hsi⟩ := h.swInterface hsess
      refine ⟨si, ?_⟩
      rw [Pool.elt?_put, if_neg ((ownsInterface_false howns hsess).2 hi hhi),
        hsi]

theorem storeStep (h : StoreInv v) {call : Call}
    (hstep : StoreStep P v call v') : StoreInv v' := by
  cases hstep with
  | same hsame => exact h.of_sameStore hsame
  | tunnelAdd hfind => exact h.tunnelAdd hfind
  | tunnelDel hfind hzero => exact h.tunnelDel _
  | sessionAdd ht hkey => exact h.sessionAdd hkey
  | sessionDel ht hkey hsess => exact h.sessionDel hkey hsess
  | interfaceAdd => exact h.interfaceAdd
  | interfaceDel howns => exact h.interfaceDel howns

/-! ## Whole runs -/

theorem runCalls (P : Policies) (hwInterfaces : Pool HwInterface)
    (swInterfaces : Pool SwInterface) (calls : List Call) :
    StoreInv (runCalls P hwInterfaces swInterfaces calls) :=
  run_invariant (step P) StoreInv
    (fun v call h => h.storeStep (storeStep_step P v call)) calls
    (initial hwInterfaces swInterfaces)

end StoreInv

end L2tvpp.Plugin
