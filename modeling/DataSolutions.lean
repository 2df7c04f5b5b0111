import DataSolutions.CdkCore
import DataSolutions.DataLake
import DataSolutions.IamWildcard
import DataSolutions.Iam
import DataSolutions.LakeFormationHelpers
import DataSolutions.ConstructTree
import DataSolutions.DataZoneAuthorizer
import DataSolutions.Provisioning
import DataSolutions.Synthesis
