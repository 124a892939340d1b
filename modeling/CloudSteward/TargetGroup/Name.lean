import CloudSteward.Text.Cut

/-!
# Names of target groups

The targets of a network are grouped under the prefix that their nodes carry;
the group is named by prefix, cluster and network. Services name the group they
attach in the same way, so both sides meet in one group.

Results:

* `targetGroupName_of_short`: a prefix within the limit is kept as it is.
-/

namespace CloudSteward

/-- Longest prefix of a target group's name, in characters. -/
def greatestPrefixLength : Nat := 36

/-- The name of the target group of a network. -/
def targetGroupName (start clusterName networkId : String) : String :=
  Text.cutChars greatestPrefixLength start ++ clusterName ++ networkId

theorem targetGroupName_of_short {start : String}
    (h : start.toList.length ≤ greatestPrefixLength) (clusterName networkId : String) :
    targetGroupName start clusterName networkId = start ++ clusterName ++ networkId := by
  rw [targetGroupName, Text.cutChars, List.take_of_length_le h, String.ofList_toList]

end CloudSteward
