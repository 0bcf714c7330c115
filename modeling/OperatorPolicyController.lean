import OperatorPolicyController.Unstructured
import OperatorPolicyController.Policy
import OperatorPolicyController.Resources
import OperatorPolicyController.Reconciler
import OperatorPolicyController.Stage
import OperatorPolicyController.Status
import OperatorPolicyController.Build
import OperatorPolicyController.Merge
import OperatorPolicyController.OpGroup
import OperatorPolicyController.Regex
import OperatorPolicyController.Subscription
import OperatorPolicyController.InstallPlan
import OperatorPolicyController.Health
import OperatorPolicyController.Reconcile
import OperatorPolicyController.Protocol
import OperatorPolicyController.Dimensions
