/-!
# Names of tables, records and fields

The spellings that the databases fix: tables and record keys of the configuration, keys of the
derived state, counter tables, the notification channel, and field names. The five scopes of the
configuration are the five tables that a load reads.
-/

set_option autoImplicit false

namespace DualStack

/-- The part of the configuration to which a record belongs. -/
inductive Scope where
  | global
  | addressFamily
  | interface
  | ecmp
  | rdma
deriving DecidableEq, Repr, Inhabited

namespace Scope

/-- The scopes in the order in which their tables are loaded and their records written. -/
def all : List Scope := [global, addressFamily, interface, ecmp, rdma]

/-- The name of a scope in messages. -/
def name : Scope → String
  | global => "global"
  | addressFamily => "address_family"
  | interface => "interface"
  | ecmp => "ecmp"
  | rdma => "rdma"

/-- The configuration table of a scope. -/
def table : Scope → String
  | global => "UE_GLOBAL"
  | addressFamily => "UE_ADDRESS_FAMILY"
  | interface => "UE_INTERFACE"
  | ecmp => "UE_ECMP_CONFIG"
  | rdma => "UE_RDMA_CONFIG"

end Scope

namespace Schema

/-- The configuration tables that the manager reads, in load order. -/
def managedTables : List String := Scope.all.map Scope.table

/-- The configuration table of the system-wide congestion control. -/
def congestionTable : String := "UE_CONGESTION"

/-- The configuration table of interface addresses. -/
def addressTable : String := "INTERFACE"

/-- The state table of IPv4 counters. -/
def countersV4 : String := "UE_INTERFACE_STATS_V4"

/-- The state table of IPv6 counters. -/
def countersV6 : String := "UE_INTERFACE_STATS_V6"

/-- The state tables that the manager reads. -/
def stateTables : List String := [countersV4, countersV6]

/-- The record of the global and RDMA tables. -/
def globalKey : String := "global"

/-- The record of the congestion table. -/
def congestionKey : String := "GLOBAL"

/-- The channel of change notifications. -/
def notificationChannel : String := "UE_DUAL_STACK_CONFIG_CHANNEL"

/-- The key of the derived global record. -/
def globalStateKey : String := "UE_GLOBAL_STATE"

/-- The key of the derived transport mode. -/
def transportModeKey : String := "UE_TRANSPORT_MODE"

/-- The key of the derived dual-stack mode. -/
def dualStackKey : String := "UE_DUAL_STACK"

/-- The key of the derived congestion control. -/
def congestionControlKey : String := "UE_CONGESTION_CONTROL"

/-- The key of the derived IPv4 record. -/
def ipv4ConfigKey : String := "UE_IPV4_CONFIG"

/-- The key of the derived IPv6 record. -/
def ipv6ConfigKey : String := "UE_IPV6_CONFIG"

/-- The table of derived interface records. -/
def interfaceConfigTable : String := "UE_INTERFACE_CONFIG"

/-- The table of derived ECMP group records. -/
def ecmpGroupTable : String := "UE_ECMP_GROUP"

/-- The key of the derived RDMA record. -/
def rdmaConfigKey : String := "UE_RDMA_CONFIG"

end Schema

/-- The written form of a truth value. -/
def boolText (b : Bool) : String :=
  if b then "true" else "false"

/-- The truth value of a text: only "true" is true. -/
def textIsTrue (s : String) : Bool :=
  s == "true"

end DualStack
